import FunctionHost.Unicode.Newer
/-!
# Quoted text

How a text is shown inside a message: between quotation marks, with an escape for quotation marks,
backslashes, line ends, tabs and zero characters, and with the number of every other character that
cannot be seen by itself.
-/

namespace FunctionHost.Text

open FunctionHost.Unicode

/-- What cannot be seen: control and format characters, unassigned and private ones, and all blanks
but the space. -/
def unprintable : Ranges := (Ranges.unions [
  Newer.other, Category.lineSeparator, Category.paragraphSeparator,
  Category.spaceSeparator]).diff (.single 0x20)

/-- The sound marks of halfwidth katakana, which stand beside the character before. -/
def soundMarks : Ranges := .ofRows ["FF9E-FF9F"]

/-- What would attach itself to the character before. -/
def attached : Ranges := Newer.graphemeExtend.diff soundMarks

/-- What is shown by its number: what cannot be seen, what is not shown by default, and what would
attach itself to the character before. -/
def hidden : Ranges := .unions [unprintable, Property.defaultIgnorable, attached]

/-- The character is shown by its number. -/
def isHidden (c : Char) : Bool := hidden.contains c.toNat

/-- A character inside quotation marks. -/
def quotedChar (c : Char) : List Char :=
  if c = '\x00' then ['\\', '0']
  else if c = '\t' then ['\\', 't']
  else if c = '\r' then ['\\', 'r']
  else if c = '\n' then ['\\', 'n']
  else if c = '\\' then ['\\', '\\']
  else if c = '\x22' then ['\\', '\x22']
  else if isHidden c then '\\' :: 'u' :: '\x7b' :: digits 16 c.toNat ++ ['\x7d']
  else [c]

/-- A text in quotation marks. -/
def quoted (s : String) : String :=
  String.ofList ('\x22' :: s.toList.flatMap quotedChar ++ ['\x22'])

end FunctionHost.Text
