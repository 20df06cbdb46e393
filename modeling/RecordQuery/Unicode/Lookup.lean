import RecordQuery.Unicode.CharSet
import RecordQuery.Unicode.Categories
import RecordQuery.Unicode.Scripts
import RecordQuery.Unicode.ScriptExtensions
import RecordQuery.Unicode.Properties
import RecordQuery.Unicode.Breaks
import RecordQuery.Unicode.Ages
import RecordQuery.Unicode.Additions

/-!
Sets of characters by the names of their properties.

Names are matched loosely: case, blanks, hyphens and underscores do not count, nor does a leading
`is`. A bare name may be a property, a general category or a script, in this order.
-/

namespace RecordQuery.Unicode

/-- The form of a name in which loosely matching names are the same. Characters beyond ASCII are
dropped. The one name that dropping a leading `is` would turn into another name keeps it. -/
def looseName (name : String) : String :=
  let cs := name.toList
  let startsWithIs :=
    match cs with
    | i :: s :: _ => (i == 'i' || i == 'I') && (s == 's' || s == 'S')
    | _ => false
  let rest := if startsWithIs then cs.drop 2 else cs
  let kept := rest.filterMap fun c =>
    if c == ' ' || c == '_' || c == '-' || 128 ≤ c.toNat then none else some c.toLower
  if startsWithIs && kept == ['c'] then "isc" else String.ofList kept

/-- A table of sets by their names, each set as lines of ranges. -/
abbrev SetTable := List (List String × List String)

def set? (table : SetTable) (name : String) : Option CharSet :=
  (table.find? fun e => e.1.contains name).map fun e => .ofText e.2

def categoriesWhere (test : String → Bool) : CharSet :=
  .ofRanges (categoryTable.flatMap fun e =>
    if e.1.head?.any test then (CharSet.ofText e.2).toList else [])

/-- The surrogates, which are in a group of categories although they are no characters. -/
def surrogates : List (Nat × Nat) := [(0xD800, 0xDFFF)]

/-- The characters without an assignment: those of no other general category. -/
def unassigned : CharSet := (categoriesWhere fun _ => true).complement

def groupNames : List (List String × String) := [
  (["l", "letter"], "l"),
  (["m", "mark", "combiningmark"], "m"),
  (["n", "number"], "n"),
  (["p", "punctuation", "punct"], "p"),
  (["s", "symbol"], "s"),
  (["z", "separator"], "z")
]

def category? (name : String) : Option CharSet :=
  if name == "any" then some .all
  else if name == "ascii" then some (.ofRanges [(0, 127)])
  else if name == "assigned" then some unassigned.complement
  else if name == "cn" || name == "unassigned" then some unassigned
  else if name == "c" || name == "other" then
    some (.ofRanges ((categoriesWhere fun n => n.startsWith "c").toList ++ unassigned.toList
      ++ surrogates))
  else if name == "lc" || name == "casedletter" then
    some (categoriesWhere fun n => n == "ll" || n == "lt" || n == "lu")
  else
    match groupNames.find? fun e => e.1.contains name with
    | some (_, letter) => some (categoriesWhere fun n => n.startsWith letter)
    | none => set? categoryTable name

def script? (name : String) : Option CharSet := set? scriptTable name

def scriptExtension? (name : String) : Option CharSet :=
  (set? scriptExtensionTable name).orElse fun _ => script? name

def age? (name : String) : Option CharSet :=
  if ageTable.any fun e => e.1.contains name then
    let younger := (ageTable.dropWhile fun e => !e.1.contains name).drop 1
    let old := ageTable.take (ageTable.length - younger.length)
    some (.ofRanges (old.flatMap fun e => (CharSet.ofText e.2).toList))
  else none

/-- The set of a bare name. The names of three categories are also short names of properties
that are not sets; they mean the categories. -/
def named? (name : String) : Option CharSet :=
  let name := looseName name
  (set? propertyTable name).orElse fun _ =>
    (category? name).orElse fun _ => script? name

def valued? (property value : String) : Option CharSet :=
  let value := looseName value
  match looseName property with
  | "gc" | "generalcategory" => category? value
  | "sc" | "script" => script? value
  | "scx" | "scriptextensions" => scriptExtension? value
  | "age" => age? value
  | "gcb" | "graphemeclusterbreak" => set? graphemeBreakTable value
  | "wb" | "wordbreak" => set? wordBreakTable value
  | "sb" | "sentencebreak" => set? sentenceBreakTable value
  | _ => none

def property (name : String) : CharSet := (set? propertyTable name).getD .empty

def decimalDigits : CharSet := (set? categoryTable "nd").getD .empty

def whiteSpace : CharSet := property "wspace"

def wordCharacters : CharSet :=
  .ofRanges ((property "alpha").toList ++ (property "joinc").toList
    ++ (categoriesWhere fun n => n.startsWith "m" || n == "nd" || n == "pc").toList)

/-! ### With the characters of the edition after the tables -/

def alphabetic : CharSet := (property "alpha").union (.ofText laterAlphabetic)

def numbers : CharSet :=
  (categoriesWhere fun n => n.startsWith "n").union (.ofText laterNumbers)

/-- The marks that extend the grapheme before them. Two letters that do so too are no marks. -/
def extendingMarks : CharSet :=
  ((property "grext").union (.ofText laterExtenders)).diff
    (categoriesWhere fun n => n.startsWith "l")

/-- The characters that show as nothing or as blanks, the space itself left out. -/
def unprintable : CharSet :=
  ((categoriesWhere fun n => n == "cc" || n == "cf" || n == "co" || n.startsWith "z").union
    (unassigned.diff (.ofText laterAssigned))).diff (.singleton 32)

def ignorable : CharSet := property "di"

end RecordQuery.Unicode
