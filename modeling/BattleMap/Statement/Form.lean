import BattleMap.Decimal.Reading
import BattleMap.Number
import BattleMap.Statement.Token

namespace BattleMap

/-!
# Forms of statements

A form says which tokens a statement consists of and what they mean: words from
a fixed choice, commas and numbers, each followed by the form of the rest, which
may depend on what was read.  There is one reader for all forms.  It looks at
one token at a time and stops at the first that cannot continue the form, so the
tokens before that one always begin some legal statement.
-/

/-- The tokens of a statement and the value they denote. -/
inductive Form : Type -> Type 1 where
  /-- The statement is complete. -/
  | done {α : Type} (value : α) : Form α
  /-- A comma. -/
  | comma {α : Type} (next : Form α) : Form α
  /-- A number without a point. -/
  | whole {α : Type} (next : Int -> Form α) : Form α
  /-- A number with or without a point. -/
  | fraction {α : Type} (next : Float -> Form α) : Form α
  /-- One word out of several, each with its meaning. -/
  | word {α β : Type} (expected : String) (choices : List (String × β)) (next : β -> Form α) :
      Form α

namespace Form

def keyword (word : String) (next : Form α) : Form α :=
  .word ("'" ++ word ++ "'") [(word, ())] fun _ => next

def pair (next : Int -> Int -> Form α) : Form α :=
  .whole fun x => .comma (.whole fun y => next x y)

/-- Where reading stands: the line, the column behind its last token, and the
tokens that are left. -/
structure Cursor where
  line : Int
  endColumn : Nat
  tokens : List Token

namespace Cursor

/-- The cursor in front of all tokens of a line. -/
def atStart (line : Int) (tokens : List Token) : Cursor :=
  ⟨line, (tokens.getLast?.map Token.endColumn).getD 1, tokens⟩

/-- The diagnostic for the token at the cursor, or for the end of the line. -/
def unexpected (cursor : Cursor) (expected : String) : Fault :=
  match cursor.tokens with
  | [] =>
      .diagnosed ⟨.unexpected "end of line" expected, some cursor.line, some cursor.endColumn⟩
  | token :: _ =>
      .diagnosed ⟨.unexpected token.describe expected, some token.line, some token.column⟩

def advance (cursor : Cursor) (rest : List Token) : Cursor :=
  { cursor with tokens := rest }

end Cursor

/-- Read the tokens at the cursor as a statement of the given form. -/
def read : Form α -> Cursor -> Except Fault α
  | .done value, cursor =>
      if cursor.tokens.isEmpty then .ok value else .error (cursor.unexpected "end of line")
  | .comma next, cursor =>
      match cursor.tokens with
      | token :: rest =>
          if token.kind = .comma then next.read (cursor.advance rest)
          else .error (cursor.unexpected "','")
      | [] => .error (cursor.unexpected "','")
  | .whole next, cursor =>
      match cursor.tokens with
      | token :: rest =>
          if token.kind = .number && !token.text.contains '.' then
            if Decimal.mostDigits < token.text.length then .error .tooManyDigits
            else (next (Decimal.value token.text)).read (cursor.advance rest)
          else .error (cursor.unexpected "integer")
      | [] => .error (cursor.unexpected "integer")
  | .fraction next, cursor =>
      match cursor.tokens with
      | token :: rest =>
          if token.kind = .number then
            (next (Decimal.readPlain token.text)).read (cursor.advance rest)
          else .error (cursor.unexpected "number")
      | [] => .error (cursor.unexpected "number")
  | .word expected choices next, cursor =>
      match cursor.tokens with
      | token :: rest =>
          match choices.find? fun choice => token.isWord choice.1 with
          | some choice => (next choice.2).read (cursor.advance rest)
          | none => .error (cursor.unexpected expected)
      | [] => .error (cursor.unexpected expected)

end Form
end BattleMap
