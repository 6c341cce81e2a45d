/-!
# Paths of files

Paths are texts with `/` between their parts.

* `Path.join` — several paths in a row as one, in its shortest form: no empty and no `.` part, and
  no `..` that a part before it could take away.
-/

namespace Depository

namespace Path

/-- The parts of a path between slashes. -/
def parts (path : List Char) : List (List Char) := path.splitOn '/'

/-- Adds a part to the parts before it, last first.  `rooted` tells that the path begins with a
slash, so that nothing is above it. -/
def push (rooted : Bool) (before : List (List Char)) (part : List Char) : List (List Char) :=
  if part = [] ∨ part = ['.'] then before
  else if part = ['.', '.'] then
    match before with
    | [] => if rooted then [] else [part]
    | last :: rest => if last = ['.', '.'] then part :: before else rest
  else part :: before

/-- The shortest form of a path.  A slash at its end stays; an empty path is `.`. -/
def normalize (path : List Char) : List Char :=
  let rooted := path.head? == some '/'
  let trailing := path.getLast? == some '/'
  let kept := ((parts path).foldl (push rooted) []).reverse
  let body := ['/'].intercalate kept
  match rooted, kept with
  | true, [] => ['/']
  | false, [] => if trailing then ['.', '/'] else ['.']
  | true, _ => '/' :: body ++ (if trailing then ['/'] else [])
  | false, _ => body ++ (if trailing then ['/'] else [])

/-- The paths in a row, in their shortest form. -/
def join (paths : List String) : String :=
  match paths.filter (· ≠ "") with
  | [] => "."
  | named => String.ofList (normalize ("/".intercalate named).toList)

end Path

end Depository
