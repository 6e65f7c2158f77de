import BattleMap.Fault
import BattleMap.Text.Lines
import BattleMap.Text.Quoted

namespace BattleMap

/-!
# Tokens

A line is cut into numbers, words and commas.  Blanks separate tokens, and a
hash sign starts a comment that reaches to the end of the line.  Words and
numbers are taken as long as possible; the point of a number belongs to it only
if a digit follows.  The alphabet is the basic one: any other character outside
a comment stops the line with a diagnostic at its column.
-/

/-- The three sorts of token. -/
inductive TokenKind where
  | number
  | word
  | comma
deriving DecidableEq, Repr

/-- A token with the line it stands on and the column of its first character. -/
structure Token where
  kind : TokenKind
  text : List Char
  line : Int
  column : Nat
deriving DecidableEq, Repr

namespace Token

/-- The name of a token in a diagnostic. -/
def describe (token : Token) : String :=
  match token.kind with
  | .number => "number " ++ String.ofList token.text
  | .comma => "','"
  | .word => "'" ++ String.ofList token.text ++ "'"

def endColumn (token : Token) : Nat :=
  token.column + token.text.length

def isWord (token : Token) (word : String) : Bool :=
  token.kind = .word && token.text = word.toList

/-- Characters that separate tokens within a line. -/
def isBlank (c : Char) : Bool :=
  c = ' ' || c = '\t' || c = '\r' || c = '\x0c' || c = '\x0b'

/-- The length of the fraction, point included, at the start of a text. -/
def fractionLength : List Char -> Nat
  | '.' :: d :: rest => if d.isDigit then 2 + (rest.takeWhile Char.isDigit).length else 0
  | _ => 0

/-- The length of the number whose first digit stands before `rest`. -/
def numberLength (rest : List Char) : Nat :=
  let whole := rest.takeWhile Char.isDigit
  1 + whole.length + fractionLength (rest.drop whole.length)

/-- The length of the word whose first letter stands before `rest`. -/
def wordLength (rest : List Char) : Nat :=
  1 + (rest.takeWhile Char.isAlpha).length

/-- The diagnostic for a character that can start no token. -/
def strayCharacter (c : Char) (line : Int) (column : Nat) : Fault :=
  .diagnosed ⟨.unexpected (Text.quoted [c]) "keyword, number or ','", some line, some column⟩

/-- The tokens of the rest of a line, which starts at the given column. -/
def scanFrom (line : Int) (column : Nat) : List Char -> Except Fault (List Token)
  | [] => .ok []
  | c :: rest =>
      if isBlank c then scanFrom line (column + 1) rest
      else if c = '#' then .ok []
      else if c = ',' then do
        return ⟨.comma, [c], line, column⟩ :: (← scanFrom line (column + 1) rest)
      else if c.isAlpha then do
        let length := wordLength rest
        return ⟨.word, (c :: rest).take length, line, column⟩ ::
          (← scanFrom line (column + length) (rest.drop (length - 1)))
      else if c.isDigit then do
        let length := numberLength rest
        return ⟨.number, (c :: rest).take length, line, column⟩ ::
          (← scanFrom line (column + length) (rest.drop (length - 1)))
      else .error (strayCharacter c line column)
termination_by text => text.length
decreasing_by all_goals simp only [List.length_cons, List.length_drop]; omega

def scan (line : Int) (text : List Char) : Except Fault (List Token) :=
  scanFrom line 1 text

end Token
end BattleMap
