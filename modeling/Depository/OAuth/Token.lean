import Depository.Instant
import Depository.Json.Reader
import Depository.Schema.Reader

/-!
# OAuth tokens

A token is stored as JSON text.  Two ways to write when it expires are understood: a number of
milliseconds, or the text of an instant.

* `OAuth.Token.parse?` — the token of a text: JSON with fields of the right kinds, of which one is
  an access token or a refresh token;
* `OAuth.Token.credentials` — what a client is given of it;
* `OAuth.Token.toJson`, `OAuth.Credentials.toJson` — both as JSON, without what is missing.
-/

namespace Depository

namespace OAuth

open Schema

/-- A token. -/
structure Token where
  accessToken : Option String
  refreshToken : Option String
  tokenType : Option String
  /-- The text of the instant at which it expires. -/
  expiry : Option String
  /-- The same as a number. -/
  expiryDate : Option Number
  scope : Option String
  deriving DecidableEq, Repr

/-- What a client is given of a token. -/
structure Credentials where
  accessToken : Option String
  refreshToken : Option String
  tokenType : Option String
  scope : Option String
  expiryDate : Option Number
  deriving DecidableEq, Repr

/-- The members of texts that may be missing. -/
def textMembers (fields : List (String × Option String)) : Members Json :=
  fields.filterMap fun (key, value) => value.map fun s => (key, .string s)

/-- The member of a number of milliseconds that may be missing. -/
def dateMember (date : Option Number) : Members Json :=
  date.toList.map fun n => ("expiry_date", .number n)

/-- What a client is given, as JSON. -/
def Credentials.toJson (c : Credentials) : Json :=
  .object (textMembers [("access_token", c.accessToken), ("refresh_token", c.refreshToken),
    ("token_type", c.tokenType), ("scope", c.scope)] ++ dateMember c.expiryDate)

/-- A text that is there and not empty. -/
def isFilled : Option String → Bool
  | some s => s != ""
  | none => false

namespace Token

/-- Checks the fields of a token. -/
def read (o : Json) : Checked Token :=
  Token.mk
    <$> field o "access_token" string.optional
    <*> field o "refresh_token" string.optional
    <*> field o "token_type" string.optional
    <*> field o "expiry" string.optional
    <*> field o "expiry_date" number.optional
    <*> field o "scope" string.optional

/-- The token can be used: it has an access token or a refresh token. -/
def isUsable (t : Token) : Bool := isFilled t.accessToken || isFilled t.refreshToken

/-- The token of a JSON value. -/
def ofJson? (v : Json) : Option Token := do
  let o ← (object (some v)).value?
  let t ← (read o).value?
  if t.isUsable then some t else none

/-- The token of a text. -/
def parse? (text : String) : Option Token := (Json.parse? text).bind ofJson?

/-- The token as JSON. -/
def toJson (t : Token) : Json :=
  .object (textMembers [("access_token", t.accessToken), ("refresh_token", t.refreshToken),
    ("token_type", t.tokenType), ("expiry", t.expiry), ("scope", t.scope)] ++
    dateMember t.expiryDate)

/-- When the token expires: the number, or else the instant of the text. -/
def expires (t : Token) : Option Number :=
  match t.expiryDate with
  | some n => some n
  | none => (t.expiry.bind Instant.parse?).map Number.integer

/-- What a client is given of the token. -/
def credentials (t : Token) : Credentials where
  accessToken := t.accessToken
  refreshToken := t.refreshToken
  tokenType := t.tokenType
  scope := t.scope
  expiryDate := t.expires

end Token

end OAuth

end Depository
