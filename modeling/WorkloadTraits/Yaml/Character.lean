/-!
# Characters of a YAML document

Which characters may stand in a document (`isReadable`), which of them a writer leaves as they are
(`isPrintable`), and which end a line (`isBreak`).  Three characters beyond ASCII end a line: the
next line, which means the same as a line feed, and the separators of lines and of paragraphs, which
stay what they are.
-/

namespace WorkloadTraits.Yaml

/-- The character of the next line. -/
def nextLine : Char := '\u0085'

/-- A separator of lines or of paragraphs. -/
def isSeparator (c : Char) : Bool :=
  c == '\u2028' || c == '\u2029'

/-- A character that ends a line. -/
def isBreak (c : Char) : Bool :=
  c == '\n' || c == '\r' || c == nextLine || isSeparator c

/-- A character that may stand in a document. -/
def isReadable (c : Char) : Bool :=
  let n := c.toNat
  n == 0x09 || n == 0x0A || n == 0x0D || (0x20 ≤ n && n ≤ 0x7E) || n == 0x85 ||
    (0xA0 ≤ n && n ≤ 0xFFFD) || 0x10000 ≤ n

/-- A character that a writer leaves as it is.  The mark of the byte order is readable, but does not
show. -/
def isPrintable (c : Char) : Bool :=
  let n := c.toNat
  n == 0x0A || (0x20 ≤ n && n ≤ 0x7E) || (0xA0 ≤ n && n ≤ 0xFFFD && n != 0xFEFF) || 0x10000 ≤ n

end WorkloadTraits.Yaml
