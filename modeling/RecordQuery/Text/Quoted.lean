import RecordQuery.Unicode.Lookup

/-!
Texts in double quotes, as messages show them.

A quotation keeps what a reader can see and escapes the rest: the quote, the backslash, characters
that show as nothing or as blanks or may be ignored, and marks that would attach to the character
before them.
-/

namespace RecordQuery.Text

def hexadecimal (n : Nat) : String := String.ofList (Nat.toDigits 16 n)

/-- The characters that are written as their code point. -/
def escapedByCode : Unicode.CharSet :=
  Unicode.unprintable.union (Unicode.ignorable.union Unicode.extendingMarks)

def quotedChar (c : Char) : String :=
  if c = '\x00' then "\\0"
  else if c = '\t' then "\\t"
  else if c = '\r' then "\\r"
  else if c = '\n' then "\\n"
  else if c = '"' then "\\\""
  else if c = '\\' then "\\\\"
  else if (32 ≤ c.toNat ∧ c.toNat < 127) then c.toString
  else if escapedByCode.contains c then "\\u\x7b" ++ hexadecimal c.toNat ++ "\x7d"
  else c.toString

def quoted (text : String) : String :=
  "\"" ++ String.join (text.toList.map quotedChar) ++ "\""

end RecordQuery.Text
