import Tabula.Text.PrintableTable

/-!
# Quoted text for messages

A text between double quotes in which nothing is invisible: controls, unassigned characters and
characters that combine with the one before them are written by their number.
-/

namespace Tabula

/-- The number of a character in hexadecimal digits, between braces after a backslash. -/
def numberEscape (c : Char) : List Char :=
  "\\u\x7b".toList ++ Nat.toDigits 16 c.toNat ++ ['}']

/-- Whether a character shows nothing by itself. -/
def isInvisible (c : Char) : Bool :=
  inRanges graphemeExtendRanges c || inRanges fillerRanges c || inRanges unprintableRanges c

/-- A character inside a quoted text. -/
def quotedChar (c : Char) : List Char :=
  if c = Char.ofNat 0 then ['\\', '0']
  else if c = '\t' then ['\\', 't']
  else if c = '\r' then ['\\', 'r']
  else if c = '\n' then ['\\', 'n']
  else if c = '\\' then ['\\', '\\']
  else if c = '"' then ['\\', '"']
  else if isInvisible c then numberEscape c
  else [c]

/-- A text between double quotes. -/
def quoted (text : String) : String :=
  String.ofList ('"' :: text.toList.flatMap quotedChar ++ ['"'])

end Tabula
