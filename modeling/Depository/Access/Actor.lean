import Depository.Failure
import Depository.Json.Cell
import Depository.Schema.Reader

/-!
# Actors

An actor is who asks for an operation: a member of the service or a global administrator.

* `Actor.resolve` — the actor that the layer in front of the service found for a request.
-/

namespace Depository

open Schema

/-- What a user is in the whole service. -/
inductive UserRole where
  | admin
  | member
  deriving DecidableEq, Repr

/-- The name of a role. -/
def UserRole.name : UserRole → String
  | admin => "ADMIN"
  | member => "MEMBER"

/-- The roles by their names. -/
def UserRole.table : List (String × UserRole) := [admin, member].map fun r => (r.name, r)

/-- Who asks for an operation. -/
structure Actor where
  id : Cell
  role : UserRole

namespace Actor

/-- The actor is a global administrator. -/
def isGlobalAdmin (a : Actor) : Bool := a.role == .admin

/-- Checks an actor. -/
def read (o : Json) : Checked Actor :=
  (fun id role => ⟨.ofText id, role⟩)
    <$> field o "id" (string.atLeast 1 (.tooShort 1))
    <*> field o "role" (option UserRole.table true)

/-- The actor of a value, which may be missing.  What is wrong with it is not told. -/
def resolve (user : Option Json) : Except Failure Actor :=
  match object user with
  | .valid o =>
    match read o with
    | .valid actor => .ok actor
    | .invalid _ => .error .unauthenticated
  | .invalid _ => .error .unauthenticated

end Actor

end Depository
