import Depository.Json.Basic

/-!
# Reading JSON

The text is read in two passes of one machine each.  The first takes one character at a time and
makes tokens; the second takes one token at a time and keeps the arrays and objects that are open.

The grammar is the strict one: no comments, no trailing commas, no other blanks than space, tab and
line ends, and no text after the value.  Of two members with one key the last counts.  A `\u` escape
that is half of a surrogate pair without its other half reads as U+FFFD.

* `Json.tokens?` — the first pass;
* `Json.parse?` — the whole reader.
-/

namespace Depository

namespace Json

/-! ### Tokens -/

/-- A token of JSON text. -/
inductive Token where
  | openBrace
  | closeBrace
  | openBracket
  | closeBracket
  | colon
  | comma
  /-- A text, a number, a boolean or null. -/
  | scalar (value : Json)

/-- The content of a text being read: its characters, last first, and the first half of a surrogate
pair if its escape came last. -/
structure Content where
  reversed : List Char := []
  half : Option Nat := none

/-- The content with a lone half replaced. -/
def Content.settle (s : Content) : Content :=
  match s.half with
  | some _ => { reversed := '\uFFFD' :: s.reversed }
  | none => s

/-- The content followed by a character. -/
def Content.push (s : Content) (c : Char) : Content :=
  { reversed := c :: s.settle.reversed }

/-- The content followed by a sixteen-bit unit. -/
def Content.pushUnit (s : Content) (unit : Nat) : Content :=
  if 0xD800 ≤ unit ∧ unit < 0xDC00 then { s.settle with half := some unit }
  else if 0xDC00 ≤ unit ∧ unit < 0xE000 then
    match s.half with
    | some high =>
      { reversed := Char.ofNat (0x10000 + (high - 0xD800) * 0x400 + (unit - 0xDC00)) :: s.reversed }
    | none => s.push '\uFFFD'
  else s.push (Char.ofNat unit)

/-- The text of a content. -/
def Content.text (s : Content) : String := String.ofList s.settle.reversed.reverse

/-- Where the first pass stands between two characters. -/
inductive Place where
  /-- Between tokens. -/
  | between
  /-- In a number or a word, with its characters last first. -/
  | word (reversed : List Char)
  /-- In a text. -/
  | inText (content : Content)
  /-- After a backslash. -/
  | escape (content : Content)
  /-- In the digits of a `\u` escape. -/
  | code (content : Content) (missing : Nat) (value : Nat)

/-- The first pass: its place and the tokens so far, last first. -/
structure Lexer where
  place : Place := .between
  reversed : List Token := []

/-- The value of a number or a word. -/
def word? (cs : List Char) : Option Json :=
  if cs = "true".toList then some (bool true)
  else if cs = "false".toList then some (bool false)
  else if cs = "null".toList then some null
  else (Number.ofJsonNumeral? cs).map number

/-- The character after a backslash stands for this one. -/
def escaped? : Char → Option Char
  | '"' => some '"'
  | '\\' => some '\\'
  | '/' => some '/'
  | 'b' => some '\x08'
  | 'f' => some '\x0C'
  | 'n' => some '\n'
  | 'r' => some '\r'
  | 't' => some '\t'
  | _ => none

/-- The token of a character that is one. -/
def punctuation? : Char → Option Token
  | '{' => some .openBrace
  | '}' => some .closeBrace
  | '[' => some .openBracket
  | ']' => some .closeBracket
  | ':' => some .colon
  | ',' => some .comma
  | _ => none

/-- A blank of JSON. -/
def isSpace (c : Char) : Bool := c == ' ' || c == '\t' || c == '\n' || c == '\r'

/-- Takes a character between tokens, after the tokens `done`. -/
def Lexer.begin (done : List Token) (c : Char) : Lexer :=
  match punctuation? c with
  | some token => ⟨.between, token :: done⟩
  | none =>
    if isSpace c then ⟨.between, done⟩
    else if c = '"' then ⟨.inText {}, done⟩
    else ⟨.word [c], done⟩

/-- Takes a character. -/
def Lexer.step (l : Lexer) (c : Char) : Option Lexer :=
  match l.place with
  | .between => some (begin l.reversed c)
  | .word rev =>
    if (punctuation? c).isSome || isSpace c || c == '"' then do
      let value ← word? rev.reverse
      return begin (.scalar value :: l.reversed) c
    else some ⟨.word (c :: rev), l.reversed⟩
  | .inText content =>
    if c = '"' then some ⟨.between, .scalar (string content.text) :: l.reversed⟩
    else if c = '\\' then some ⟨.escape content, l.reversed⟩
    else if c.toNat < 0x20 then none
    else some ⟨.inText (content.push c), l.reversed⟩
  | .escape content =>
    if c = 'u' then some ⟨.code content 3 0, l.reversed⟩
    else do
      let meant ← escaped? c
      return ⟨.inText (content.push meant), l.reversed⟩
  | .code content missing value => do
    let digit ← Text.Hex.digit? c
    let value := value * 16 + digit
    match missing with
    | 0 => return ⟨.inText (content.pushUnit value), l.reversed⟩
    | missing + 1 => return ⟨.code content missing value, l.reversed⟩

/-- The tokens when the text ends here. -/
def Lexer.finish (l : Lexer) : Option (List Token) :=
  match l.place with
  | .between => some l.reversed.reverse
  | .word rev => (word? rev.reverse).map fun value => (.scalar value :: l.reversed).reverse
  | _ => none

/-- The tokens of a text. -/
def tokens? (s : String) : Option (List Token) :=
  (s.toList.foldlM Lexer.step {}).bind Lexer.finish

/-! ### Values -/

/-- An array or an object that is open. -/
inductive Frame where
  /-- An array, with its items so far, last first. -/
  | array (reversed : List Json)
  /-- An object, with its members so far. -/
  | object (members : Members Json)
  /-- An object whose member `key` is being read. -/
  | member (members : Members Json) (key : String)

/-- What must follow. -/
inductive Want where
  /-- A value. -/
  | value
  /-- A value, or the end of the array. -/
  | valueOrEnd
  /-- A key. -/
  | key
  /-- A key, or the end of the object. -/
  | keyOrEnd
  /-- The colon after the key. -/
  | colon (key : String)
  /-- A comma or the end of the innermost frame. -/
  | next
  /-- Nothing. -/
  | nothing (result : Json)

/-- The second pass: the open frames, innermost first, and what must follow. -/
structure Builder where
  frames : List Frame := []
  want : Want := .value

/-- The builder after the value `v` is complete. -/
def Builder.complete (v : Json) : List Frame → Option Builder
  | [] => some ⟨[], .nothing v⟩
  | .array rev :: rest => some ⟨.array (v :: rev) :: rest, .next⟩
  | .member members key :: rest => some ⟨.object (Members.set key v members) :: rest, .next⟩
  | .object _ :: _ => none

/-- The builder begins a value with the token. -/
def Builder.beginValue (frames : List Frame) : Token → Option Builder
  | .scalar v => complete v frames
  | .openBracket => some ⟨.array [] :: frames, .valueOrEnd⟩
  | .openBrace => some ⟨.object [] :: frames, .keyOrEnd⟩
  | _ => none

/-- The builder begins a member with the token. -/
def Builder.beginMember (frames : List Frame) : Token → Option Builder
  | .scalar (.string key) => some ⟨frames, .colon key⟩
  | _ => none

/-- Takes a token. -/
def Builder.step (b : Builder) (t : Token) : Option Builder :=
  match b.want, t, b.frames with
  | .value, t, frames => beginValue frames t
  | .valueOrEnd, .closeBracket, .array rev :: rest => complete (.array rev.reverse) rest
  | .valueOrEnd, t, frames => beginValue frames t
  | .key, t, frames => beginMember frames t
  | .keyOrEnd, .closeBrace, .object members :: rest => complete (.object members) rest
  | .keyOrEnd, t, frames => beginMember frames t
  | .colon key, .colon, .object members :: rest => some ⟨.member members key :: rest, .value⟩
  | .next, .comma, .array rev :: rest => some ⟨.array rev :: rest, .value⟩
  | .next, .closeBracket, .array rev :: rest => complete (.array rev.reverse) rest
  | .next, .comma, .object members :: rest => some ⟨.object members :: rest, .key⟩
  | .next, .closeBrace, .object members :: rest => complete (.object members) rest
  | _, _, _ => none

/-- The value when the tokens end here. -/
def Builder.finish (b : Builder) : Option Json :=
  match b.want with
  | .nothing result => some result
  | _ => none

/-- The value of a JSON text. -/
def parse? (s : String) : Option Json := do
  let tokens ← tokens? s
  let builder ← tokens.foldlM Builder.step {}
  builder.finish

end Json

end Depository
