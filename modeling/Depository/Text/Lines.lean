import Depository.Text.Blank

/-!
# Lines

* `lines` — the lines of a text, which end at a line feed or at a carriage return and a line feed;
* `breaks` — the pieces of a text between single line feeds and carriage returns;
* `unlines` — lines put together again with line feeds.
-/

namespace Depository

namespace Text

/-- Puts a character before the first piece. -/
def consFirst (c : Char) : List (List Char) → List (List Char)
  | [] => [[c]]
  | piece :: rest => (c :: piece) :: rest

/-- The lines of a text.  A carriage return that no line feed follows is part of its line. -/
def lines : List Char → List (List Char)
  | [] => [[]]
  | '\r' :: '\n' :: cs => [] :: lines cs
  | '\n' :: cs => [] :: lines cs
  | c :: cs => consFirst c (lines cs)

/-- The pieces of a text between line feeds and carriage returns. -/
def breaks : List Char → List (List Char)
  | [] => [[]]
  | c :: cs => if c = '\n' ∨ c = '\r' then [] :: breaks cs else consFirst c (breaks cs)

/-- The lines with line feeds between them. -/
def unlines (ls : List (List Char)) : List Char := ['\n'].intercalate ls

end Text

end Depository
