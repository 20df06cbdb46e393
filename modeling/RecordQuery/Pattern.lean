import RecordQuery.Pattern.Reader
import RecordQuery.Pattern.Resolution
import RecordQuery.Pattern.Footprint
import RecordQuery.Pattern.Automaton

/-!
Compiled patterns.

A pattern carries its text beside its program. The text need not compile to that program, since a
pattern can come from elsewhere with settings that its text does not show.
-/

namespace RecordQuery

structure Pattern where
  source : String
  program : Pattern.Program

namespace Pattern

/-- The program of a text, if the text is a regular expression that can be afforded. -/
def program? (source : String) : Option Program := do
  let tree ← Syntax.parse? source
  let regex ← Regex.ofSyntax? tree
  if regex.isAffordable then some (.ofRegex regex) else none

def compile? (source : String) : Option Pattern := (program? source).map (⟨source, ·⟩)

def isMatch (p : Pattern) (text : String) : Bool := p.program.isMatch text

end Pattern

end RecordQuery
