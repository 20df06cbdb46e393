import RecordQuery.Toml.Scalar
import RecordQuery.Toml.Tree

/-!
Reading TOML documents.

The reader goes through the lines of a document: comments, headers, and keys with values. Every
round of its loops takes at least one character, so the length of the text bounds the rounds.
Arrays and tables in braces may lie in each other to a depth of 79.
-/

namespace RecordQuery.Toml

/-- The greatest depth of arrays and tables in braces, and of names in a key. -/
def depthLimit : Nat := 79

abbrev Reader := StateT (List Char) Option

namespace Reader

/-! ### Blanks, comments and line ends -/

def isBlank (c : Char) : Bool := c == ' ' || c == '\t'

/-- A character that may stand in a text of one line: a tab, or no control character. -/
def isPrinting (c : Char) : Bool := c == '\t' || (32 ≤ c.toNat && c.toNat != 127)

def skipBlanks : Reader Unit := modify (List.dropWhile isBlank)

def skipLines : Bool → List Char → List Char
  | _, [] => []
  | inComment, c :: rest =>
    if c == '\n' || (c == '\r' && rest.head? == some '\n') then skipLines false rest
    else if inComment then if isPrinting c then skipLines true rest else c :: rest
    else if isBlank c then skipLines false rest
    else if c == '#' then skipLines true rest
    else c :: rest

def peek : Reader (Option Char) := do return (← get).head?

def takeText (text : String) : Reader Bool := do
  let cs ← get
  if text.toList.isPrefixOf cs then
    set (cs.drop text.length)
    return true
  else return false

def expect (text : String) : Reader Unit := do
  if !(← takeText text) then failure

def newLine : Reader Bool := do
  if ← takeText "\n" then return true
  takeText "\r\n"

/-- The end of a line: blanks, a comment, and then a line end or the end of the document. -/
def lineEnd : Reader Unit := do
  skipBlanks
  if ← takeText "#" then modify (List.dropWhile isPrinting)
  if !(← get).isEmpty && !(← newLine) then failure

def apply {α : Type} (read : List Char → Option (α × List Char)) : Reader α := read

/-! ### Strings -/

def code? (count : Nat) (cs : List Char) : Option (Char × List Char) :=
  let ds := cs.take count
  if ds.length = count ∧ ds.all isHexDigit then
    let n := natural 16 ds
    if h : n.isValidChar then some (Char.ofNatAux n h, cs.drop count) else none
  else none

def escape? : List Char → Option (Char × List Char)
  | 'b' :: rest => some ('\x08', rest)
  | 't' :: rest => some ('\t', rest)
  | 'n' :: rest => some ('\n', rest)
  | 'f' :: rest => some ('\x0c', rest)
  | 'r' :: rest => some ('\r', rest)
  | '"' :: rest => some ('"', rest)
  | '\\' :: rest => some ('\\', rest)
  | 'u' :: rest => code? 4 rest
  | 'U' :: rest => code? 8 rest
  | _ => none

def basic : Nat → List Char → List Char → Option (String × List Char)
  | 0, _, _ => none
  | fuel + 1, done, cs =>
    match cs with
    | [] => none
    | '"' :: rest => some (String.ofList done.reverse, rest)
    | '\\' :: rest =>
      match escape? rest with
      | some (c, rest) => basic fuel (c :: done) rest
      | none => none
    | c :: rest => if isPrinting c then basic fuel (c :: done) rest else none

def literal (cs : List Char) : Option (String × List Char) :=
  let isInside (c : Char) : Bool := isPrinting c && c != '\''
  match cs.dropWhile isInside with
  | '\'' :: rest => some (String.ofList (cs.takeWhile isInside), rest)
  | _ => none

def quoteRun (quote : Char) (cs : List Char) : Nat := (cs.takeWhile (· == quote)).length

/-- What follows a backslash at the end of a line: all blanks and line ends. None if the line
goes on after the backslash. -/
def joined? (cs : List Char) : Option (List Char) :=
  let startsLine : List Char → Bool
    | '\n' :: _ => true
    | '\r' :: '\n' :: _ => true
    | _ => false
  let rest := cs.dropWhile isBlank
  if startsLine rest then some (skipSpace rest) else none
where
  skipSpace : List Char → List Char
    | [] => []
    | c :: rest =>
      if isBlank c || c == '\n' || (c == '\r' && rest.head? == some '\n') then skipSpace rest
      else c :: rest

/-- The rest of a string in three quotes of either kind. Up to two quotes may stand together
inside it, and also before the three at its end. A line end counts as a line feed, and escapes
count in double quotes only. -/
def multiline (quote : Char) : Nat → List Char → List Char → Option (String × List Char)
  | 0, _, _ => none
  | fuel + 1, done, cs =>
    match cs with
    | [] => none
    | c :: rest =>
      if c == quote then
        let run := quoteRun quote cs
        if run < 3 then multiline quote fuel (c :: done) rest
        else
          let inside := min (run - 3) 2
          some (String.ofList (List.replicate inside quote ++ done).reverse, cs.drop (inside + 3))
      else if c == '\\' && quote == '"' then
        match joined? rest with
        | some rest => multiline quote fuel done rest
        | none =>
          match escape? rest with
          | some (c, rest) => multiline quote fuel (c :: done) rest
          | none => none
      else if c == '\r' && rest.head? == some '\n' then multiline quote fuel done rest
      else if c == '\n' || isPrinting c then multiline quote fuel (c :: done) rest
      else none

def string : Reader String := do
  let fuel := (← get).length + 1
  if ← takeText "\"\"\"" then
    let _ ← newLine
    apply (multiline '"' fuel [])
  else if ← takeText "'''" then
    let _ ← newLine
    apply (multiline '\'' fuel [])
  else if ← takeText "\"" then apply (basic fuel [])
  else if ← takeText "'" then apply literal
  else failure

/-! ### Keys -/

def isBareKey (c : Char) : Bool := c.isAlphanum || c == '-' || c == '_'

def keyName : Reader String := do
  let fuel := (← get).length + 1
  if ← takeText "\"" then apply (basic fuel [])
  else if ← takeText "'" then apply literal
  else
    let cs ← get
    let name := cs.takeWhile isBareKey
    if name.isEmpty then failure
    set (cs.dropWhile isBareKey)
    return String.ofList name

def keyNames : Nat → Reader (List String)
  | 0 => failure
  | fuel + 1 => do
    skipBlanks
    let name ← keyName
    skipBlanks
    if ← takeText "." then return name :: (← keyNames fuel)
    else return [name]

/-- A key of no more names than the depth limit. -/
def key : Reader (List String) := do
  let names ← keyNames ((← get).length + 1)
  if names.length ≤ depthLimit then return names else failure

/-! ### Values -/

mutual

/-- A value, with arrays and tables in braces of at most the given depth. -/
def value : Nat → Nat → Reader Json
  | 0, _ => failure
  | fuel + 1, depth => do
    match ← peek with
    | some '"' | some '\'' => return .string (← string)
    | some '[' =>
      match depth with
      | 0 => failure
      | depth + 1 =>
        expect "["
        modify (skipLines false)
        if ← takeText "]" then return .array []
        else return .array (← items fuel depth)
    | some '\x7b' =>
      match depth with
      | 0 => failure
      | depth + 1 =>
        expect "\x7b"
        skipBlanks
        if ← takeText "\x7d" then return .object []
        else return (← pairs fuel depth .fresh).toJson
    | some 't' => expect "true"; return .bool true
    | some 'f' => expect "false"; return .bool false
    | some _ => apply scalar?
    | none => failure

/-- The items of an array, up to its end. The last one may have a comma after it. -/
def items : Nat → Nat → Reader (List Json)
  | 0, _ => failure
  | fuel + 1, depth => do
    let item ← value fuel depth
    modify (skipLines false)
    if ← takeText "," then
      modify (skipLines false)
      if ← takeText "]" then return [item]
      else return item :: (← items fuel depth)
    else
      expect "]"
      return [item]

def pairs : Nat → Nat → Node → Reader Node
  | 0, _, _ => failure
  | fuel + 1, depth, table => do
    let name ← key
    expect "="
    skipBlanks
    let tree ← value fuel depth
    skipBlanks
    match table.addValue name tree with
    | none => failure
    | some table =>
      if ← takeText "," then pairs fuel depth table
      else
        expect "\x7d"
        return table

end

/-! ### Documents -/

def ofOption {α : Type} : Option α → Reader α
  | some x => pure x
  | none => failure

def line (b : Builder) : Reader Builder := do
  if ← takeText "[[" then
    let path ← key
    expect "]]"
    lineEnd
    ofOption (b.startOneOfSeveral path)
  else if ← takeText "[" then
    let path ← key
    expect "]"
    lineEnd
    ofOption (b.startTable path)
  else
    let name ← key
    expect "="
    skipBlanks
    let tree ← value (2 * (← get).length + 2) depthLimit
    lineEnd
    ofOption (b.addValue name tree)

def lines : Nat → Builder → Reader Builder
  | 0, _ => failure
  | fuel + 1, b => do
    modify (skipLines false)
    if (← get).isEmpty then return b
    else lines fuel (← line b)

end Reader

/-- The tree of a document, if the text is one. A byte order mark may come first. -/
def parse? (text : String) : Option Json := do
  let cs := text.toList
  let cs := if cs.head? == some '\ufeff' then cs.drop 1 else cs
  let (b, _) ← (Reader.lines (cs.length + 1) .initial).run cs
  let root ← b.finish
  some root.toJson

end RecordQuery.Toml
