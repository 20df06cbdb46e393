import RecordQuery.Binary64.Shortest
import RecordQuery.Json.Basic
import RecordQuery.NameMap

/-!
Writing JSON documents without blanks.

A document is written as it stands, field by field. `Json.canonical` brings the fields of all
objects into the order of their names first and keeps the last one of each name.
-/

namespace RecordQuery.Json

def hexDigit (n : Nat) : Char := Char.ofNat (if n < 10 then 48 + n else 87 + n)

/-- A character as it stands in a string: only the quote, the backslash and the control
characters are escaped. -/
def escapedChar (c : Char) : List Char :=
  if c = '"' then ['\\', '"']
  else if c = '\\' then ['\\', '\\']
  else if c = '\x08' then ['\\', 'b']
  else if c = '\x0c' then ['\\', 'f']
  else if c = '\n' then ['\\', 'n']
  else if c = '\r' then ['\\', 'r']
  else if c = '\t' then ['\\', 't']
  else if c.toNat < 32 then
    ['\\', 'u', '0', '0', hexDigit (c.toNat / 16), hexDigit (c.toNat % 16)]
  else [c]

def stringText (text : String) : String :=
  "\"" ++ String.ofList (text.toList.flatMap escapedChar) ++ "\""

def Number.text : Number → String
  | integer n _ => toString n
  | real x _ => x.text

mutual

def text : Json → String
  | null => "null"
  | bool b => if b then "true" else "false"
  | number n => n.text
  | string s => stringText s
  | array items => "[" ++ String.intercalate "," (textList items) ++ "]"
  | object fields => "\x7b" ++ String.intercalate "," (textFields fields) ++ "\x7d"

def textList : List Json → List String
  | [] => []
  | item :: rest => item.text :: textList rest

def textFields : List (String × Json) → List String
  | [] => []
  | (name, value) :: rest => (stringText name ++ ":" ++ value.text) :: textFields rest

end

mutual

/-- The document with the fields of its objects in order and no name twice. -/
def canonical : Json → Json
  | array items => array (canonicalList items)
  | object fields => object (NameMap.ofList (canonicalFields fields)).entries
  | tree => tree

def canonicalList : List Json → List Json
  | [] => []
  | item :: rest => item.canonical :: canonicalList rest

def canonicalFields : List (String × Json) → List (String × Json)
  | [] => []
  | (name, value) :: rest => (name, value.canonical) :: canonicalFields rest

end

end RecordQuery.Json
