import Depository.Ini.Line

/-!
# INI documents

A document is a table of entries.  Its text is read in two passes.

* The lines are taken in order (`Builder.step`).  A header makes the table of its section the target
  of the assignments after it; a section whose entry is a text or a number stays that, and the
  assignments to it are lost.  A key that ends in `[]` makes a list, and so does a second value for
  a list.
* Then each entry of the document that is a table, or null, and has a dotted name moves into the
  tables of the parts of its name (`nest`), which replace entries that are neither tables nor lists.

Some things cannot be done and fail the whole document: to use null, a table with a length above
two, or a value without a plain text as a key, to move an entry into null, and to give a list a
`length` that is none.

* `Ini.parse` — the document of a text.
-/

namespace Depository

namespace Ini

/-- What kind of table an entry is. -/
inductive Shape where
  /-- A list; the names of its items are their positions. -/
  | list
  /-- A table that was given as a value. -/
  | object
  /-- A table that the document makes, of a section or of a part of a dotted name. -/
  | table
  deriving DecidableEq, Repr

/-- An entry of a document. -/
inductive Entry where
  /-- A value without parts. -/
  | leaf (value : Json)
  /-- A table or a list. -/
  | node (shape : Shape) (members : List (String × Entry))
  deriving Inhabited

/-- Why a document cannot be read. -/
inductive Fault where
  /-- Null is used as a key. -/
  | nullKey
  /-- A table with a length above two is used as a key. -/
  | longTableKey
  /-- A value without a plain text is used as a name or as a length. -/
  | noPlainText
  /-- A list is given a length that is none. -/
  | badLength
  /-- A path leads through null. -/
  | throughNull
  /-- An entry is to be put into null under this name. -/
  | intoNull (name : String)
  deriving DecidableEq, Repr

/-- The wording of a fault. -/
def Fault.message : Fault → String
  | nullKey => "Cannot read properties of null (reading 'length')"
  | longTableKey => "keyRaw.slice is not a function"
  | noPlainText => Json.noPlainText
  | badLength => "Invalid array length"
  | throughNull => "Cannot convert undefined or null to object"
  | intoNull name => "Cannot set properties of null (setting '" ++ name ++ "')"

namespace Entry

/-- The names of the positions from `n` on put to values. -/
def numbered : Nat → List Entry → Members Entry
  | _, [] => []
  | n, v :: rest => (toString n, v) :: numbered (n + 1) rest

mutual

/-- The entry of a value. -/
def ofJson : Json → Entry
  | .array items => node .list (numbered 0 (ofItems items))
  | .object members => node .object (ofMembers members)
  | .null => leaf .null
  | .bool b => leaf (.bool b)
  | .number n => leaf (.number n)
  | .string s => leaf (.string s)

/-- The entries of the items of an array. -/
def ofItems : List Json → List Entry
  | [] => []
  | v :: rest => ofJson v :: ofItems rest

/-- The entries of the members of an object. -/
def ofMembers : List (String × Json) → List (String × Entry)
  | [] => []
  | m :: rest => ofMember m :: ofMembers rest

/-- The entry of a member of an object. -/
def ofMember : String × Json → String × Entry
  | (name, v) => (name, ofJson v)

end

/-- The entry counts as true: a table, a list, or a value that does. -/
def isTruthy : Entry → Bool
  | leaf v => v.isTruthy
  | node _ _ => true

/-- The entry as a number, where it has one; a table that the document makes has none. -/
def number? : Entry → Option Number
  | leaf v => v.toNumber?
  | node .table _ => none
  | node _ members => if (Members.get? Json.textBarrier members).isSome then none else some .nan

/-! #### Lists and their lengths -/

/-- The name under which a list has its length. -/
def lengthName : String := "length"

/-- The numbers below this one are lengths. -/
def lengthBound : Nat := Nat.pow 2 32

/-- The name is the position of an item after the first `length` ones. -/
def isBeyond (length : Nat) (name : String) : Bool :=
  match name.toNat? with
  | some n => toString n == name && length ≤ n && n + 1 < lengthBound
  | none => false

/-- The items of a list after its length was set: those beyond it are gone. -/
def resize (members : Members Entry) : Option Number → Except Fault (Members Entry)
  | none => .error .noPlainText
  | some (.integer n) =>
    if 0 ≤ n ∧ n < lengthBound then .ok (members.filter fun m => !isBeyond n.toNat m.1)
    else .error .badLength
  | some _ => .error .badLength

/-- The list of one value, or the list that an entry is. -/
def asList : Option Entry → Members Entry
  | none => []
  | some (node .list members) => members
  | some v => [("0", v)]

/-- Gives a value to a name of a table; the value is added to a list.  Nothing can be given to a
leaf. -/
def assign (name : String) (toList : Bool) (value : Json) : Entry → Except Fault Entry
  | leaf v => .ok (leaf v)
  | node shape members =>
    if shape = .list ∧ name = lengthName then (resize members value.toNumber?).map (node shape)
    else
      let entry := ofJson value
      let grown := fun items : Members Entry =>
        Members.set name (node .list (items ++ [(toString items.length, entry)])) members
      .ok <| node shape <|
        match toList, Members.get? name members with
        | true, current => grown (asList current)
        | false, some (node .list items) => grown items
        | false, _ => Members.set name entry members

end Entry

/-! ### The lines in order -/

/-- Where assignments go. -/
inductive Target where
  /-- To the document itself. -/
  | root
  /-- To the section of this name. -/
  | named (name : String)
  /-- Nowhere. -/
  | nowhere

/-- The first pass: the entries so far and the target of assignments. -/
structure Builder where
  entries : Members Entry := []
  target : Target := .root

/-- The one name that no entry has. -/
def forbidden : String := "__proto__"

/-- The name that a value stands for. -/
def nameOf (v : Json) : Except Fault String :=
  match v.plainText? with
  | some name => .ok name
  | none => .error .noPlainText

/-- Refuses a table that says to be longer than two: it is taken for a text, and it is none. -/
def checkLength (members : Members Json) : Except Fault Unit :=
  match (Members.get? Entry.lengthName members).map Json.toNumber? with
  | none => .ok ()
  | some none => .error .noPlainText
  | some (some n) => if n.isAbove 2 then .error .longTableKey else .ok ()

/-- The name of a key, and whether it makes a list. -/
def keyName : Json → Except Fault (String × Bool)
  | .null => .error .nullKey
  | .string s =>
    let cs := s.toList
    if 2 < cs.length ∧ cs.drop (cs.length - 2) = ['[', ']'] then
      .ok (String.ofList (cs.take (cs.length - 2)), true)
    else .ok (s, false)
  | .object members => do
    checkLength members
    return (← nameOf (.object members), false)
  | v => (nameOf v).map fun name => (name, false)

/-- The key is the forbidden name. -/
def isForbidden (key : Json) (name : String) : Bool :=
  match key with
  | .string _ => name == forbidden
  | _ => false

/-- Takes the header of a section. -/
def Builder.enter (b : Builder) (name : String) : Builder :=
  if (Members.get? name b.entries).any Entry.isTruthy then { b with target := .named name }
  else ⟨Members.set name (.node .table []) b.entries, .named name⟩

/-- Takes an assignment. -/
def Builder.assign (b : Builder) (name : String) (toList : Bool) (value : Json) :
    Except Fault Builder :=
  match b.target with
  | .nowhere => .ok b
  | .root => do
    match ← Entry.assign name toList value (.node .table b.entries) with
    | .node _ entries => return { b with entries }
    | .leaf _ => return b
  | .named s =>
    match Members.get? s b.entries with
    | some entry => do
      let entry ← Entry.assign name toList value entry
      return { b with entries := Members.set s entry b.entries }
    | none => .ok b

/-- Takes a line. -/
def Builder.step (b : Builder) : Line → Except Fault Builder
  | .nothing => .ok b
  | .header key => do
    let name ← nameOf key
    return if isForbidden key name then { b with target := .nowhere } else b.enter name
  | .assign key value => do
    let (name, toList) ← keyName key
    if isForbidden key name then return b
    b.assign name toList value

/-! ### Dotted names -/

/-- Splits a name at its dots; a dot after a backslash does not split.  `before` is the character
before the text and `piece` the piece so far, last first. -/
def splitDots (before : Char) (piece : List Char) : List Char → List (List Char)
  | [] => [piece.reverse]
  | c :: cs =>
    if c = '.' ∧ before ≠ '\\' then piece.reverse :: splitDots c [] cs
    else splitDots c (c :: piece) cs

/-- A name with every backslash before a dot taken away. -/
def unescapeDots : List Char → List Char
  | '\\' :: '.' :: cs => '.' :: unescapeDots cs
  | c :: cs => c :: unescapeDots cs
  | [] => []

/-- Puts an entry into the tables along a path of names, which are made where they are missing. -/
def place (name : String) (value : Entry) : List String → Entry → Except Fault Entry
  | [], .leaf _ => .error (.intoNull name)
  | _ :: _, .leaf _ => .error .throughNull
  | [], .node shape members =>
    if shape = .list ∧ name = Entry.lengthName then
      (Entry.resize members value.number?).map (.node shape)
    else .ok (.node shape (Members.set name value members))
  | part :: rest, .node shape members =>
    if shape = .list ∧ part = Entry.lengthName then .error .noPlainText
    else do
      let child := match Members.get? part members with
        | some (.leaf .null) => .leaf .null
        | some (.node s ms) => .node s ms
        | _ => .node .table []
      let child ← place name value rest child
      return .node shape (Members.set part child members)

/-- The entries of a document, and the names to be taken away in the end. -/
structure Nesting where
  entries : Members Entry
  moved : List String := []

/-- The entry is one that moves: a table or null. -/
def moves : Entry → Bool
  | .node shape _ => shape != .list
  | .leaf .null => true
  | .leaf _ => false

/-- Moves the entry of a name, if it moves. -/
def Nesting.step (n : Nesting) (name : String) : Except Fault Nesting :=
  match Members.get? name n.entries with
  | none => .ok n
  | some entry =>
    if !moves entry then .ok n
    else
      let parts := splitDots ' ' [] name.toList
      let last := parts.getLastD []
      let plain := unescapeDots last
      let path := (parts.dropLast.map String.ofList).filter (· ≠ forbidden)
      if path.isEmpty && plain == last then .ok n
      else do
        match ← place (String.ofList plain) entry path (.node .table n.entries) with
        | .node _ entries => return ⟨entries, name :: n.moved⟩
        | .leaf _ => return n

/-- The entries with those of dotted names moved. -/
def nest (entries : Members Entry) : Except Fault (Members Entry) := do
  let n ← (Members.names entries).foldlM Nesting.step ⟨entries, []⟩
  return n.moved.foldl (fun es name => Members.erase name es) n.entries

/-- The document of a text. -/
def parse (text : List Char) : Except Fault (Members Entry) := do
  let b ← ((Text.breaks text).map Line.read).foldlM Builder.step {}
  nest b.entries

end Ini

end Depository
