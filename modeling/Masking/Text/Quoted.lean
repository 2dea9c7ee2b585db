import Masking.Unicode.Classes

/-! Texts between quotation marks, with everything that cannot be seen written by number. -/

namespace Masking.Text

/-- A character by its number, for texts that show what cannot be seen. -/
def numberEscape (c : Char) : List Char :=
  '\\' :: 'u' :: '\x7b' :: (hexadecimal c.toNat ++ ['\x7d'])

/-- The form of a character between quotation marks. Characters that do not show, or that would be
drawn onto the one before, are given by their number. -/
def showChar (c : Char) : List Char :=
  if c.toNat = 0 then ['\\', '0']
  else if c = '\t' then ['\\', 't']
  else if c = '\r' then ['\\', 'r']
  else if c = '\n' then ['\\', 'n']
  else if c = '"' then ['\\', '"']
  else if c = '\\' then ['\\', '\\']
  else if Unicode.graphemeExtend.contains c.toNat then numberEscape c
  else if Unicode.printable.contains c.toNat then [c]
  else numberEscape c

/-- A text between quotation marks, every character of it visible. -/
def quoted (text : String) : String :=
  String.ofList ('"' :: (text.toList.flatMap showChar ++ ['"']))

end Masking.Text
