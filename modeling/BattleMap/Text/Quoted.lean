import BattleMap.Text.Printable

namespace BattleMap
namespace Text

/-!
# Quoted text

Messages quote what they complain about.  A quoted text stands between single
quotes, or between double quotes if it holds a single quote and no double one.
Inside, the backslash and the enclosing quote are escaped, and so is every
character that would not be seen.
-/

/-- The character codes of lower-case hexadecimal digits. -/
def hexDigit (d : Nat) : Char :=
  if d < 10 then Char.ofNat (48 + d) else Char.ofNat (87 + d)

/-- A number in hexadecimal, filled up with zeros to the given width. -/
def hexadecimal : (width : Nat) -> Nat -> List Char
  | 0, _ => []
  | width + 1, n => hexadecimal width (n / 16) ++ [hexDigit (n % 16)]

/-- The shortest of the three code escapes that can hold the character. -/
def codeEscape (c : Char) : List Char :=
  if c.toNat < 0x100 then '\\' :: 'x' :: hexadecimal 2 c.toNat
  else if c.toNat < 0x10000 then '\\' :: 'u' :: hexadecimal 4 c.toNat
  else '\\' :: 'U' :: hexadecimal 8 c.toNat

/-- One character as it stands between the quotes `quote`. -/
def escaped (quote : Char) (c : Char) : List Char :=
  if c = quote || c = '\\' then ['\\', c]
  else if c = '\t' then ['\\', 't']
  else if c = '\n' then ['\\', 'n']
  else if c = '\r' then ['\\', 'r']
  else if isPrintable c then [c]
  else codeEscape c

/-- Single quotes, unless only double quotes leave the text free of its own. -/
def enclosingQuote (text : List Char) : Char :=
  if text.contains '\x27' && !text.contains '\x22' then '\x22' else '\x27'

/-- The text between quotes, with everything escaped that has to be. -/
def quoted (text : List Char) : String :=
  let quote := enclosingQuote text
  String.ofList (quote :: text.flatMap (escaped quote) ++ [quote])

end Text
end BattleMap
