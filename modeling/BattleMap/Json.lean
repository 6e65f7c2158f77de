import BattleMap.Number
import BattleMap.Text.Quoted

namespace BattleMap

/-!
# Records as text

Values are written with one element to a line and two spaces of indentation for
every level.  A record keeps its fields in order.  Fractions are written by the
shortest text that reads back; infinities and the undefined fraction have words
of their own.
-/

/-- A value that can be written. -/
inductive Json where
  | null
  | bool (value : Bool)
  | whole (n : Int)
  | fraction (x : Float)
  | text (value : String)
  | list (items : List Json)
  | record (fields : List (String × Json))
deriving Repr, Inhabited

namespace Json

def number : Number -> Json
  | .whole n => .whole n
  | .fraction x => .fraction x

/-- One character between the quotes of a text.  Only the quote, the backslash
and control characters are escaped. -/
def escaped (c : Char) : List Char :=
  if c = '\x22' || c = '\\' then ['\\', c]
  else if c = '\x08' then ['\\', 'b']
  else if c = '\x0c' then ['\\', 'f']
  else if c = '\n' then ['\\', 'n']
  else if c = '\r' then ['\\', 'r']
  else if c = '\t' then ['\\', 't']
  else if c.toNat < 0x20 then '\\' :: 'u' :: Text.hexadecimal 4 c.toNat
  else [c]

def quoted (text : String) : String :=
  String.ofList ('\x22' :: text.toList.flatMap escaped ++ ['\x22'])

/-- A fraction, whose exceptional values have words. -/
def fractionText (x : Float) : String :=
  match Binary64.ofFloat x with
  | .infinite negative => if negative then "-Infinity" else "Infinity"
  | .undefined => "NaN"
  | value => value.exactText

def newLine (depth : Nat) : String :=
  String.ofList ('\n' :: List.replicate (2 * depth) ' ')

/-- Elements between brackets, each on its own line; without elements only the
brackets are left. -/
def bracketed (opening closing : String) (depth : Nat) (elements : List String) : String :=
  if elements.isEmpty then opening ++ closing
  else
    opening ++ newLine (depth + 1) ++ String.intercalate ("," ++ newLine (depth + 1)) elements ++
      newLine depth ++ closing

mutual

/-- The text of a value that stands at the given depth. -/
def write (depth : Nat) : Json -> String
  | .null => "null"
  | .bool value => if value then "true" else "false"
  | .whole n => Decimal.ofInt n
  | .fraction x => fractionText x
  | .text value => quoted value
  | .list items => bracketed "[" "]" depth (writeItems (depth + 1) items)
  | .record fields => bracketed "\x7b" "\x7d" depth (writeFields (depth + 1) fields)

def writeItems (depth : Nat) : List Json -> List String
  | [] => []
  | item :: items => write depth item :: writeItems depth items

def writeFields (depth : Nat) : List (String × Json) -> List String
  | [] => []
  | (name, value) :: fields =>
      (quoted name ++ ": " ++ write depth value) :: writeFields depth fields

end

mutual

/-- Every whole number within a value has few enough digits to be written. -/
def isWritable : Json -> Bool
  | .whole n => Decimal.isWritable n
  | .list items => areItemsWritable items
  | .record fields => areFieldsWritable fields
  | _ => true

def areItemsWritable : List Json -> Bool
  | [] => true
  | item :: items => isWritable item && areItemsWritable items

def areFieldsWritable : List (String × Json) -> Bool
  | [] => true
  | (_, value) :: fields => isWritable value && areFieldsWritable fields

end

/-- The text of a whole file. -/
def render (value : Json) : String :=
  value.write 0

end Json
end BattleMap
