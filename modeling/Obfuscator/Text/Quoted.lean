/-
Texts in quotes, for messages and records.

A quoted text shows every character that is visible by itself. The quote, the
backslash, line feed, carriage return, tab and NUL have a short escape; all
others that are not visible are spelled by number.
-/
import Obfuscator.Text.HiddenTable
import Obfuscator.Text.Hex

namespace Obfuscator.Text

/-- Whether a character is visible by itself. -/
def isVisible (c : Char) : Bool :=
  if c.toNat < 0x80 then 0x20 ≤ c.toNat && c.toNat < 0x7f
  else !hiddenTable.holds c

/-- One character of a quoted text. -/
def quotedChar (c : Char) : List Char :=
  if c = '"' then ['\\', '"']
  else if c = '\\' then ['\\', '\\']
  else if c = '\n' then ['\\', 'n']
  else if c = '\r' then ['\\', 'r']
  else if c = '\t' then ['\\', 't']
  else if c = '\x00' then ['\\', '0']
  else if isVisible c then [c]
  else '\\' :: 'u' :: '{' :: (hexPadded 1 c.toNat ++ ['}'])

/-- A text in quotes. -/
def quoted (s : String) : String :=
  String.ofList ('"' :: s.toList.flatMap quotedChar ++ ['"'])

end Obfuscator.Text
