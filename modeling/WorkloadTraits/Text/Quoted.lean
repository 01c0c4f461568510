import WorkloadTraits.Text.Lowercase
import WorkloadTraits.Text.PrintTable

/-!
# Quoted text in messages

A message that repeats a user's text shows it between double quotes, in a form in which no
character is lost or unseen: the quote and the backslash are escaped, tab, line feed, carriage
return and the null character have short escapes, and every character that combines with its
neighbour or has no form of its own is written by its number.
-/

namespace WorkloadTraits.Text

/-- Digits of a number in base 16, in lower case and without leading zeros. -/
def hexDigits (n : Nat) : List Char :=
  Nat.toDigits 16 n

/-- Whether a character has a form of its own on the page. -/
def isShown (c : Char) : Bool :=
  if c.toNat < 0x80 then 0x20 ≤ c.toNat && c.toNat < 0x7F
  else !inRanges PrintTable.extendingRanges c.toNat && !inRanges PrintTable.invisibleRanges c.toNat

/-- One character as it stands between the quotes. -/
def quoteChar (c : Char) : List Char :=
  if c == '"' then ['\\', '"']
  else if c == '\\' then ['\\', '\\']
  else if c == '\n' then ['\\', 'n']
  else if c == '\r' then ['\\', 'r']
  else if c == '\t' then ['\\', 't']
  else if c.toNat == 0 then ['\\', '0']
  else if isShown c then [c]
  else ['\\', 'u', '\x7b'] ++ hexDigits c.toNat ++ ['\x7d']

/-- A text between double quotes. -/
def quoted (s : String) : String :=
  String.ofList (['"'] ++ s.toList.flatMap quoteChar ++ ['"'])

end WorkloadTraits.Text
