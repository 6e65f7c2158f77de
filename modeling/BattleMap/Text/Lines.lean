namespace BattleMap
namespace Text

/-!
# Lines of a text

A map is written one statement to a line, so every position that is reported
back to its author depends on where lines end.  Eleven line ends are known: ten
single characters, and the pair of a carriage return and a line feed, which
counts once.  A line end closes the line before it; it does not open an empty
one after itself, so a text that ends with a line end has no further line.

Text that comes from a file has its carriage returns replaced first, by
`unifyLineEnds`.  Both functions treat the pair as one line end, which is why
the replacement moves no statement to another line.
-/

/-- The characters that end a line on their own. -/
def endsLine (c : Char) : Bool :=
  c = '\n' || c = '\r' || c = '\x0b' || c = '\x0c' || c = '\x1c' || c = '\x1d' || c = '\x1e' ||
    c = '\u0085' || c = '\u2028' || c = '\u2029'

/-- The lines of a text, each without its line end. -/
def lines : List Char -> List (List Char)
  | [] => []
  | '\r' :: '\n' :: rest => [] :: lines rest
  | c :: rest =>
      if endsLine c then [] :: lines rest
      else
        match lines rest with
        | [] => [[c]]
        | first :: others => (c :: first) :: others

/-- Every line together with its number; the first line is number one. -/
def numberedLines (text : List Char) : List (Nat × List Char) :=
  (lines text).zipIdx.map fun entry => (entry.2 + 1, entry.1)

/-- Write every carriage return, alone or before a line feed, as one line feed. -/
def unifyLineEnds : List Char -> List Char
  | [] => []
  | '\r' :: '\n' :: rest => '\n' :: unifyLineEnds rest
  | c :: rest => (if c = '\r' then '\n' else c) :: unifyLineEnds rest

end Text
end BattleMap
