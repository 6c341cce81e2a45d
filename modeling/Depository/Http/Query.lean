import Depository.Http.Percent
import Depository.Json.Basic
import Depository.Members

/-!
# Queries

A query is a list of parts `name=value`, of which the first thousand count.  A name may lead into
arrays and objects by texts in brackets, its steps: `[]` adds to an array, a small number in
brackets is a position in one, and any other text in brackets is a key of an object.

* `Query.group` — the values of each name; a name that comes again has an array;
* `Query.Value.join` — what two names that begin alike say together;
* `Query.value?` — the value of a name in a query.

Of arrays and objects only the kind is told; to know it, it is enough to know of the items of an
array whether they are texts.  An array that would grow above twenty items becomes an object; to one
that two names have made together a text is still added when it has twenty.
-/

namespace Depository

namespace Http

namespace Query

/-! ### Values -/

/-- A place of an array. -/
inductive Item where
  /-- Nothing is in the place. -/
  | gap
  | text
  /-- An array or an object. -/
  | composite
  deriving DecidableEq, Repr

/-- What a name stands for. -/
inductive Value where
  | text (value : String)
  | array (items : List Item)
  /-- An object; where `isOverfull` holds it was an array with too many items. -/
  | object (isOverfull : Bool)
  deriving DecidableEq, Repr

/-- The greatest number of items of an array. -/
def itemLimit : Nat := 20

namespace Value

/-- The value as an item of an array. -/
def item : Value → Item
  | text _ => .text
  | array _ | object _ => .composite

/-- The value as a list of items: those of an array, or the value itself. -/
def items : Value → List Item
  | array is => is
  | v => [v.item]

/-- The array of some items, or the object that it becomes when there are too many. -/
def ofItems (is : List Item) : Value :=
  if itemLimit < is.length then object true else array is

/-- The value with another one added, by a name that comes again. -/
def add (v w : Value) : Value :=
  match v with
  | object true => object true
  | v => ofItems (v.items ++ w.items)

/-- Puts an item into its place in an array, unless there is a gap, at the end. -/
def putItem (items : List Item) (place : Nat) (i : Item) : List Item :=
  match items[place]? with
  | none => items ++ List.replicate (place - items.length) .gap ++ [i]
  | some .gap => items.set place i
  | some .composite => if i = .composite then items else items ++ [i]
  | some .text => items ++ [i]

/-- Puts the items of an array into their places in another one; `place` is that of the first. -/
def putItems (items : List Item) (place : Nat) : List Item → List Item
  | [] => items
  | .gap :: rest => putItems items (place + 1) rest
  | i :: rest => putItems (putItem items place i) (place + 1) rest

/-- What two names that begin alike say together, the first one first.  An empty text says
nothing. -/
def join (v w : Value) : Value :=
  match v, w with
  | v, text "" => v
  | text _, object true => object true
  | text _, w => ofItems (.text :: w.items)
  | array is, text _ => if is.length ≤ itemLimit then array (is ++ [.text]) else object true
  | array is, array js => array (putItems is 0 js)
  | array _, object o => object o
  | object o, object p => object (o || p)
  | object o, _ => object o

end Value

/-! ### Parts -/

/-- The greatest number of parts. -/
def partLimit : Nat := 1000

/-- A text with the percent-encoded brackets in it decoded. -/
def showBrackets : List Char → List Char
  | [] => []
  | '%' :: '5' :: c :: cs =>
    if c = 'B' ∨ c = 'b' then '[' :: showBrackets cs
    else if c = 'D' ∨ c = 'd' then ']' :: showBrackets cs
    else '%' :: showBrackets ('5' :: c :: cs)
  | c :: cs => c :: showBrackets cs

/-- Cuts a part at the `=` after its name, which is the first that follows a closing bracket, or
else the first of all. -/
def cut (cs : List Char) : List Char × List Char :=
  match afterBracket [] cs with
  | some parts => parts
  | none => (cs.takeWhile (· ≠ '='), (cs.dropWhile (· ≠ '=')).drop 1)
where
  /-- Cuts at the first `=` after a closing bracket; `before` is the text so far, last first. -/
  afterBracket (before : List Char) : List Char → Option (List Char × List Char)
    | ']' :: '=' :: rest => some ((']' :: before).reverse, rest)
    | c :: rest => afterBracket (c :: before) rest
    | [] => none

/-- A part of a query, or the values of all parts of one name. -/
structure Part where
  name : String
  value : Value
  deriving DecidableEq, Repr

/-- The part of a text. -/
def Part.read (cs : List Char) : Part :=
  let (name, value) := cut cs
  ⟨Percent.decodeForm name, .text (Percent.decodeForm value)⟩

/-- The parts of a query. -/
def parts (query : List Char) : List Part :=
  (((showBrackets query).splitOn '&').take partLimit).map Part.read

/-- The parts with one more; a part whose name is there is added to it. -/
def insert (ps : List Part) (p : Part) : List Part :=
  match ps with
  | [] => [p]
  | q :: rest =>
    if q.name = p.name then ⟨q.name, q.value.add p.value⟩ :: rest else q :: insert rest p

/-- The parts of a query, those of one name together. -/
def group (query : List Char) : List Part := (parts query).foldl insert []

/-! ### Names -/

/-- A step into an array or an object. -/
inductive Step where
  /-- To the end of an array. -/
  | append
  /-- To the position of this number. -/
  | position (n : Nat)
  | key
  deriving DecidableEq, Repr

/-- The step of the text in brackets.  A number is a position only in its shortest form. -/
def Step.ofText (cs : List Char) : Step :=
  let s := String.ofList cs
  if cs = [] then append
  else if Number.areDigits cs && (Number.ofText s).text == s then position (Number.digitsValue cs)
  else key

/-- A character that is no bracket. -/
def isInner (c : Char) : Bool := c != '[' && c != ']'

/-- The texts in brackets of a name, each without brackets inside it.  What stands between them does
not count; before the first, it is given apart. -/
def brackets : List Char → List Char × List (List Char)
  | [] => ([], [])
  | '[' :: cs =>
    let (before, found) := brackets cs
    -- a bracket encloses what stands before the next one, if that closes
    match cs.dropWhile isInner with
    | ']' :: _ => ([], cs.takeWhile isInner :: found)
    | _ => ('[' :: before, found)
  | c :: cs =>
    let (before, found) := brackets cs
    (c :: before, found)

/-- The greatest number of steps.  What follows the last of them is one more step, to a key. -/
def stepLimit : Nat := 5

/-- The steps of the texts in brackets after a name. -/
def steps (texts : List (List Char)) : List Step :=
  (texts.take stepLimit).map Step.ofText ++ if stepLimit < texts.length then [.key] else []

/-- Where a name leads: what it begins with, and the steps after that.  A name that begins with a
bracket begins with the text in it. -/
def route (name : String) : List Char × List Step :=
  match brackets name.toList with
  | ([], first :: rest) => (first, (steps (first :: rest)).drop 1)
  | (before, texts) => (before, steps texts)

/-- The value at the beginning of steps that lead to a value. -/
def Value.behind (v : Value) : Step → Value
  | .append =>
    match v with
    | object true => object true
    | v => ofItems v.items
  | .position n =>
    if n < itemLimit then array (List.replicate n .gap ++ [v.item]) else object true
  | .key => object false

/-- What a part says about a name, if it begins with it. -/
def Part.about? (name : String) (p : Part) : Option Value :=
  let (start, steps) := route p.name
  if start = name.toList then some (steps.foldr (fun s v => v.behind s) p.value) else none

/-- What parts say about a name together. -/
def joinAll : List Value → Option Value
  | [] => none
  | v :: rest => some (rest.foldl Value.join v)

/-- A value, of which only the kind is told unless it is a text. -/
def Value.toJson : Value → Json
  | text value => .string value
  | array _ => .array []
  | object _ => .object []

/-- The value of a name in a query. -/
def value? (name : String) (query : List Char) : Option Json :=
  (joinAll ((group query).filterMap (Part.about? name))).map Value.toJson

end Query

end Http

end Depository
