import Depository.Failure

/-!
# Responses

A request is answered with a status and a JSON body.

* `Response.error` — the response for a status and a text that tells the cause;
* `Response.ofFailure` — the response for a failed operation; the causes of some failures are not
  told, and those are answered like any breakdown.
-/

namespace Depository

namespace Http

/-- A response. -/
structure Response where
  status : Nat
  /-- The body; null if there is none. -/
  body : Json

/-- The phrase of a status. -/
def phrase : Nat → String
  | 400 => "Bad Request"
  | 401 => "Unauthorized"
  | 403 => "Forbidden"
  | 404 => "Not Found"
  | 409 => "Conflict"
  | _ => "Internal Server Error"

namespace Response

/-- The body of an error that tells what is given: a text or a list of texts together with the
phrase of the status, nothing but the phrase where nothing is given, and any other value as it
is. -/
def errorBody (status : Nat) (given : Cell) : Json :=
  let code : Members Json := [("statusCode", .number (.integer status))]
  match given.isTruthy, given with
  | true, some (.string text) =>
    .object (code ++ [("message", .string text), ("error", .string (phrase status))])
  | true, some (.array items) =>
    .object (code ++ [("message", .array items), ("error", .string (phrase status))])
  | true, some v => v
  | _, _ => .object (code ++ [("message", .string (phrase status))])

/-- The text of an error: the one in its body, or else its name. -/
def errorText (status : Nat) (name : String) (given : Cell) : String :=
  match (errorBody status given).get? "message" with
  | some (.string text) => text
  | _ => name

/-- The response for an error. -/
def error (status : Nat) (text : String) : Response := ⟨status, errorBody status (.ofText text)⟩

/-- The response without its body. -/
def head (r : Response) : Response := { r with body := .null }

/-- The response when the cause is not told. -/
def breakdown : Response :=
  ⟨500, .object [("statusCode", .number (.integer 500)),
    ("message", .string "Internal server error")]⟩

/-- The response for a failed operation. -/
def ofFailure (f : Failure) : Response :=
  match f.category.status? with
  | some status => error status f.message
  | none => breakdown

end Response

end Http

end Depository
