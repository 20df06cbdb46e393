import RecordQuery.Json.Basic

/-!
Trees of TOML documents while they are being put together.

A table is made in one of three ways: by a header or in braces, by being on the way to another
table, or by a key with dots. Which of the ways it was decides what may still be added to it. The
finished tree is a JSON tree.
-/

namespace RecordQuery.Toml

/-- A finished value, a table, or the tables under one name with the last one first. A table is
implicit until a header names it, and dotted if a key with dots made it. -/
inductive Node where
  | leaf (tree : Json)
  | table (implicit dotted : Bool) (entries : List (String × Node))
  | tables (items : List Node)

namespace Node

def fresh : Node := .table false false []

/-- The entries with a node in the place of a name, at the end if the name is new. -/
def putEntry (name : String) (node : Node) : List (String × Node) → List (String × Node)
  | [] => [(name, node)]
  | (n, other) :: rest =>
    if n = name then (name, node) :: rest else (n, other) :: putEntry name node rest

def child? (name : String) : Node → Option Node
  | .table _ _ entries => entries.lookup name
  | _ => none

def put (table : Node) (name : String) (node : Node) : Node :=
  match table with
  | .table implicit dotted entries => .table implicit dotted (putEntry name node entries)
  | other => other

def erase (name : String) : Node → Node
  | .table implicit dotted entries => .table implicit dotted (entries.filter (·.1 != name))
  | other => other

/-- Changes the table at the end of a path and gives a result beside it. Tables that are missing
on the way are made. A key with dots goes through tables that it could have made itself, a header
through all tables and through the last table under a name. -/
def descend {α : Type} (dotted : Bool) (change : Node → Option (Node × α)) :
    List String → Node → Option (Node × α)
  | [], node => change node
  | name :: path, node =>
    match node with
    | .table .. =>
      match node.child? name with
      | none => do
        let (child, result) ← descend dotted change path (.table true dotted [])
        some (node.put name child, result)
      | some (.table implicit d entries) =>
        if dotted && !implicit then none
        else do
          let (child, result) ← descend dotted change path (.table implicit d entries)
          some (node.put name child, result)
      | some (.tables (last :: before)) => do
        let (child, result) ← descend dotted change path last
        some (node.put name (.tables (child :: before)), result)
      | some _ => none
    | _ => none

/-- Adds a value under a key, a path of names. The name must be new, and dots in the key must not
reach into a table that was made without them. -/
def addValue (key : List String) (value : Json) (root : Node) : Option Node :=
  let path := key.dropLast
  let add (node : Node) : Option (Node × Unit) :=
    match node, key.getLast? with
    | .table _ dotted _, some name =>
      if dotted == path.isEmpty || (node.child? name).isSome then none
      else some (node.put name (.leaf value), ())
    | _, _ => none
  (descend true add path root).map (·.1)

mutual

def toJson : Node → Json
  | .leaf tree => tree
  | .table _ _ entries => .object (entriesToJson entries)
  | .tables items => .array (listToJson items).reverse

def entriesToJson : List (String × Node) → List (String × Json)
  | [] => []
  | (name, node) :: rest => (name, node.toJson) :: entriesToJson rest

def listToJson : List Node → List Json
  | [] => []
  | node :: rest => node.toJson :: listToJson rest

end

end Node

/-- A document on its way: the finished part, the table that keys are being added to, where that
table goes, and whether it is one of several. -/
structure Builder where
  root : Node
  current : Node
  path : List String
  oneOfSeveral : Bool

namespace Builder

def initial : Builder := ⟨.fresh, .fresh, [], false⟩

def addValue (b : Builder) (key : List String) (value : Json) : Option Builder := do
  some { b with current := ← b.current.addValue key value }

def finish (b : Builder) : Option Node :=
  match b.path.getLast? with
  | none => some b.current
  | some name =>
    let close (parent : Node) : Option (Node × Unit) :=
      if b.oneOfSeveral then
        match parent.child? name with
        | none => some (parent.put name (.tables [b.current]), ())
        | some (.tables items) => some (parent.put name (.tables (b.current :: items)), ())
        | some _ => none
      else some (parent.put name b.current, ())
    (Node.descend false close b.path.dropLast b.root).map (·.1)

/-- Starts the table of a header. A table that was only on the way to others may be named now;
no table is named twice. -/
def startTable (b : Builder) (path : List String) : Option Builder := do
  let name ← path.getLast?
  let begin (parent : Node) : Option (Node × Node) :=
    match parent.child? name with
    | none => some (parent, .fresh)
    | some (.table true false entries) => some (parent.erase name, .table false false entries)
    | some _ => none
  let (root, current) ← Node.descend false begin path.dropLast (← b.finish)
  some ⟨root, current, path, false⟩

def startOneOfSeveral (b : Builder) (path : List String) : Option Builder := do
  let name ← path.getLast?
  let begin (parent : Node) : Option (Node × Unit) :=
    match parent.child? name with
    | none => some (parent.put name (.tables []), ())
    | some (.tables _) => some (parent, ())
    | some _ => none
  let (root, _) ← Node.descend false begin path.dropLast (← b.finish)
  some ⟨root, .fresh, path, true⟩

end Builder

end RecordQuery.Toml
