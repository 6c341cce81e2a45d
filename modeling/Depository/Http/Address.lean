import Depository.Http.Percent

/-!
# Addresses

A request has an address: a path with a query, or all of a scheme, a host, a path and a query.  What
follows a `#` is not looked at.  A client sends no address with a blank or a character above U+00FF
in it, and a server reads none with a character that is not visible ASCII.

* `Address.isSendable`, `Address.isReadable` — a client sends an address, and a server reads it;
* `Target.ofAddress?` — the path and the query of an address, if it has a path.

A path without a `#` is taken as it is.  Any other address is taken apart: a backslash in front of
its query counts as a slash, its host is passed over, and some characters of the rest are
percent-encoded.  A part that no host can have begins the path.
-/

namespace Depository

namespace Http

namespace Address

/-! ### What is sent and read -/

/-- An address with this character is sent. -/
def isSendable (c : Char) : Bool := '!' ≤ c && c.toNat ≤ 0xFF

/-- An address with this character is read. -/
def isVisible (c : Char) : Bool := '!' ≤ c && c ≤ '~'

/-- The character can stand between the scheme and the path. -/
def isBeforePath (c : Char) : Bool := c.isAlphanum || "-_.!~*'()%;:&=+$,[]@".toList.contains c

/-- Two `@` follow one another. -/
def hasDoubleAt : List Char → Bool
  | '@' :: '@' :: _ => true
  | _ :: cs => hasDoubleAt cs
  | [] => false

/-- The scheme of an address and what follows its colon, if the address begins with letters and two
slashes come after the colon. -/
def scheme? (cs : List Char) : Option (List Char × List Char) :=
  match cs.takeWhile Char.isAlpha, cs.dropWhile Char.isAlpha with
  | [], _ => none
  | letters, ':' :: '/' :: '/' :: rest => some (letters, '/' :: '/' :: rest)
  | _, _ => none

/-- An address is read: it begins with a slash or a star, or with a scheme and what can stand before
a path. -/
def isReadable (cs : List Char) : Bool :=
  cs.all isVisible &&
    match cs with
    | '/' :: _ | '*' :: _ => true
    | _ =>
      match scheme? cs with
      | some (_, rest) =>
        let before := (rest.drop 2).takeWhile fun c => c ≠ '/' && c ≠ '?'
        before.all isBeforePath && !hasDoubleAt before
      | none => false

/-! ### Hosts -/

/-- The character ends a host and all that belongs to it. -/
def endsHost (c : Char) : Bool := c == '/' || c == '?' || c == '#'

/-- No host has this character. -/
def isForeign (c : Char) : Bool := "\"%';<>\\^`\x7b|\x7d".toList.contains c

/-- The characters before the last one of a kind, and those after it, which are all if there is
none. -/
def cutLast (c : Char) (cs : List Char) : List Char × List Char :=
  let after := (cs.reverse.takeWhile (· ≠ c)).reverse
  (cs.take (cs.length - after.length - 1), after)

/-- A host without its port, which is made of the digits after a colon at its end. -/
def withoutPort (host : List Char) : List Char :=
  match host.reverse.dropWhile Char.isDigit with
  | ':' :: before => before.reverse
  | _ => host

/-- What follows the host of an address. -/
structure Rest where
  text : List Char
  /-- The host has a name. -/
  isNamed : Bool
  deriving DecidableEq, Repr

/-- The greatest length of the name of a host; a longer one is none. -/
def nameLimit : Nat := 255

/-- What follows a host given by a name and a port: what no name has comes after it. -/
def afterName (host rest : List Char) : Option Rest :=
  let bare := withoutPort host
  if bare.head? = some '[' && bare.getLast? = some ']' then
    some ⟨if rest.head? = some '/' then rest else '/' :: rest, true⟩
  else
    let name := bare.takeWhile (· ≠ ':')
    let more := bare.dropWhile (· ≠ ':')
    if name.length ≤ nameLimit && name.any fun c => c == '[' || c == ']' then none
    else
      some ⟨if more = [] then rest else '/' :: more ++ rest, name ≠ [] && name.length ≤ nameLimit⟩

/-- What follows the host at the beginning of a text, and the user who may stand before it. -/
def afterHost (cs : List Char) : Option Rest := do
  let (user, place) := cutLast '@' (cs.takeWhile (!endsHost ·))
  let _ ← Percent.decode? user
  afterName (place.takeWhile (!isForeign ·))
    (place.dropWhile (!isForeign ·) ++ cs.dropWhile (!endsHost ·))

/-- A text has a user and a host after two slashes. -/
def hasUser : List Char → Bool
  | '/' :: '/' :: cs =>
    let isPart := fun c => c ≠ '@' && c ≠ '/'
    match cs.takeWhile isPart, cs.dropWhile isPart with
    | _ :: _, '@' :: c :: _ => isPart c
    | _, _ => false
  | _ => false

/-! ### Parts of an address -/

/-- The characters that are percent-encoded, with their codes. -/
def codes : List (Char × String) :=
  [('"', "%22"), ('\x27', "%27"), ('<', "%3C"), ('>', "%3E"), ('\\', "%5C"), ('^', "%5E"),
    ('\x60', "%60"), ('\x7b', "%7B"), ('|', "%7C"), ('\x7d', "%7D")]

/-- A text with some characters percent-encoded. -/
def encode (cs : List Char) : List Char :=
  cs.flatMap fun c => ((codes.lookup c).map String.toList).getD [c]

/-- An address with slashes for the backslashes in front of its query. -/
def turnSlashes (cs : List Char) : List Char :=
  let isBefore := fun c => c ≠ '?' && c ≠ '#'
  (cs.takeWhile isBefore).map (fun c => if c = '\\' then '/' else c) ++ cs.dropWhile isBefore

/-- The scheme whose addresses have no host. -/
def hostless : List Char := "javascript".toList

/-- The schemes whose addresses have the path `/` where none is given. -/
def rooted : List (List Char) :=
  ["http", "https", "ftp", "gopher", "file", "ws", "wss"].map String.toList

end Address

/-- What is requested: a path, and a query after a question mark. -/
structure Target where
  path : List Char
  query : List Char
  deriving DecidableEq, Repr

namespace Target

/-- The target of a text without a host. -/
def ofText (cs : List Char) : Target :=
  ⟨cs.takeWhile (· ≠ '?'), (cs.dropWhile (· ≠ '?')).drop 1⟩

/-- The target of a text that follows a host, if it has a path. -/
def ofRest? (cs : List Char) : Option Target :=
  let t := ofText (cs.takeWhile (· ≠ '#'))
  if t.path = [] then none else some t

open Address in
/-- The target of an address that is taken apart. -/
def ofParts? (address : List Char) : Option Target :=
  let cs := turnSlashes address
  match scheme? cs with
  | some (scheme, rest) =>
    let scheme := scheme.map Char.toLower
    if scheme = hostless then ofRest? rest
    else do
      let after ← afterHost (rest.drop 2)
      let t := ofText ((encode after.text).takeWhile (· ≠ '#'))
      if t.path ≠ [] then return t
      else if rooted.contains scheme && after.isNamed then return { t with path := ['/'] }
      else none
  | none =>
    if hasUser cs then do
      let after ← afterHost (cs.drop 2)
      ofRest? (encode after.text)
    else ofRest? (encode cs)

/-- The target of an address, if it has a path. -/
def ofAddress? (address : List Char) : Option Target :=
  if address.head? = some '/' && !address.contains '#' then some (ofText address)
  else ofParts? address

end Target

end Http

end Depository
