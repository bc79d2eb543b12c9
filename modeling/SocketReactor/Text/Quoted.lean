import SocketReactor.Text.Numeral
import SocketReactor.Text.Printable

/-!
# Quoted text

Text between double quotes as error messages show it. The quote, the backslash
and the usual white space controls have short escapes; a character that cannot
be shown alone is written by its code point in braces.
-/

namespace SocketReactor.Text

def escapeCodePoint (c : Char) : List Char :=
  ['\\', 'u', '\x7b'] ++ Nat.toDigits 16 c.toNat ++ ['\x7d']

def escape (c : Char) : List Char :=
  if c = '\x00' then ['\\', '0']
  else if c = '\t' then ['\\', 't']
  else if c = '\r' then ['\\', 'r']
  else if c = '\n' then ['\\', 'n']
  else if c = '"' then ['\\', '"']
  else if c = '\\' then ['\\', '\\']
  else if isExtending c then escapeCodePoint c
  else if isPrintable c then [c]
  else escapeCodePoint c

/-- A text between double quotes, its characters escaped where needed. -/
def quoted (text : String) : String :=
  String.ofList (['"'] ++ text.toList.flatMap escape ++ ['"'])

end SocketReactor.Text
