import Depository.Http.Address
import Depository.Http.Body
import Depository.Http.Query
import Depository.Http.Response
import Depository.Http.Route
import Depository.Service.Read
import Depository.Service.Remove
import Depository.Service.Test

/-!
# The service over HTTP

A request is answered by the operation of its route.  Its caller is looked at first, then the id in
its path, then what its body or its query says; the first that is wrong is what the caller is told.
A body that is none comes even before the route.  A request for the head of a response is answered
like one for the response, without its body.  One with a method that HTTP does not know, or with an
address that cannot be read, is refused before it is read, and there are requests that are not even
sent.

* `Http.serve` — the operation that comes to the response for a request.
-/

namespace Depository

namespace Http

open Operation (fail lift attempt)

/-- A request, of which anything may be left out. -/
structure Request where
  /-- The method, in any letter case; without one it is a `GET`. -/
  method : Cell
  /-- The path with the query, or a whole address; without one it is a slash. -/
  address : Cell
  /-- The caller that the layer in front of the service found. -/
  user : Cell
  /-- The body. -/
  body : Cell

/-- The character can stand in the name of a method. -/
def isInMethod (c : Char) : Bool := c.isAlphanum || "!#$%&'*+-.^_`|~".toList.contains c

/-- The name of the method of a request, if one can be sent. -/
def Request.verb? (r : Request) : Option String :=
  match r.method with
  | none | some .null | some (.string "") => some "GET"
  | some (.string name) => if name.toList.all isInMethod then some name.toUpper else none
  | _ => none

/-- The address of a request as it is sent, if it can be. -/
def Request.sent? (r : Request) : Option (List Char) :=
  if r.address.isTruthy then
    r.address.plainText?.bind fun text =>
      if text.toList.all Address.isSendable then some text.toList else none
  else some ['/']

/-- The methods that HTTP knows. -/
def methods : List String :=
  ["ACL", "BIND", "CHECKOUT", "CONNECT", "COPY", "DELETE", "GET", "HEAD", "LINK", "LOCK",
    "M-SEARCH", "MERGE", "MKACTIVITY", "MKCALENDAR", "MKCOL", "MOVE", "NOTIFY", "OPTIONS", "PATCH",
    "POST", "PROPFIND", "PROPPATCH", "PURGE", "PUT", "QUERY", "REBIND", "REPORT", "SEARCH",
    "SOURCE", "SUBSCRIBE", "TRACE", "UNBIND", "UNLINK", "UNLOCK", "UNSUBSCRIBE"]

/-- The id of a path, which must be a UUID. -/
def pathId (id : String) : Except Response String :=
  if Text.isUuid id then .ok id else .error (.error 400 "Validation failed (uuid is expected)")

/-- A body with a text. -/
def message (text : String) : Json := .object [("message", .string text)]

/-- The response for the outcome of an operation. -/
def respond {α : Type} (status : Nat) (body : α → Json) : Except Failure α → Response
  | .ok a => ⟨status, body a⟩
  | .error e => .ofFailure e

/-- Runs an operation and comes to the response for its outcome. -/
def answer {α : Type} (status : Nat) (body : α → Json) (o : Operation α) : Operation Response := do
  let outcome ← attempt o
  return respond status body outcome

/-- Runs the operation of an id in a path. -/
def answerFor {α : Type} (id : String) (status : Nat) (body : α → Json)
    (o : Cell → Operation α) : Operation Response :=
  match pathId id with
  | .ok id => answer status body (o (.ofText id))
  | .error response => pure response

/-- The views of storages as they are sent. -/
def viewsJson (views : List View) : Json := .array (views.map View.toJson)

/-- The operation of a route for an actor. -/
def dispatch (cloudMode : Bool) (actor : Actor) (query : List Char) (content : Json) :
    Route → Operation Response
  | .save =>
    answer 201 View.toJson do
      let input ← lift (Input.parse (some content))
      Service.save cloudMode actor input.workspaceId input
  | .list =>
    answer 200 viewsJson do
      let workspaceId ← lift (parseWorkspaceQuery (Query.value? "workspace_id" query))
      Service.readAll actor (.ofText workspaceId)
  | .testSubmitted =>
    answer 200 (fun _ => message "successful") do
      let input ← lift (Input.parse (some content))
      Service.testSubmitted cloudMode actor input
  | .read id => answerFor id 200 View.toJson fun id => Service.read actor id
  | .delete id =>
    answerFor id 200 (fun _ => message "storage deleted successfully") fun id =>
      Service.delete actor id
  | .testStored id =>
    answerFor id 200 (fun _ => message "successful") fun id => Service.testStored actor id
  | .transfer id =>
    answerFor id 200 (fun _ => message "storage transferred successfully") fun id => do
      let target ← lift (parseTransfer (some content))
      Service.transfer actor id (.ofText target) none

/-- The response when there is no route. -/
def notFound (verb : String) (address : List Char) : Response :=
  .error 404 ("Cannot " ++ verb ++ " " ++ String.ofList address)

/-- The response when a part of the path cannot be decoded. -/
def undecodable (part : List Char) : Response :=
  .error 400 ("Failed to decode param '" ++ String.ofList part ++ "'")

/-- The method whose route answers a request: that of the response, where only its head is asked
for. -/
def routed (verb : String) : String := if verb = "HEAD" then "GET" else verb

/-- The operation that comes to the whole response for a request with this method and address. -/
def serveWhole (cloudMode : Bool) (r : Request) (verb : String) (address : List Char) :
    Operation Response :=
  match Target.ofAddress? address, Body.read r.body with
  | none, _ => pure ⟨404, .null⟩
  | some _, .error refusal => pure (.error 400 refusal)
  | some target, .ok content =>
    match Route.lookup target.path with
    | .undecodable part => pure (undecodable part)
    | .routes byMethod =>
      match byMethod.lookup (routed verb) with
      | none => pure (notFound verb address)
      | some route =>
        match Actor.resolve r.user with
        | .error e => pure (.ofFailure e)
        | .ok actor => dispatch cloudMode actor target.query content route

/-- The response for a request that is refused before it is read. -/
def unreadable : Response := ⟨400, .null⟩

/-- Why there is no response for a request that would make the service a relay. -/
def hungUp : String := "socket hang up"

/-- The operation that comes to the response for a request. -/
def serve (cloudMode : Bool) (r : Request) : Operation Response :=
  match r.verb?, r.sent? with
  | some verb, some address =>
    if verb = "CONNECT" then fail (.fault hungUp)
    else if methods.contains verb && Address.isReadable address then do
      let response ← serveWhole cloudMode r verb address
      return if verb = "HEAD" then response.head else response
    else pure unreadable
  | _, _ => fail (.malformed .noRequest)

end Http

end Depository
