import EditGuard.Text.Blank
import EditGuard.Text.Position
import EditGuard.Text.Scan
import EditGuard.Text.Word

/-! # Import references

What every import syntax shares: the keyword, and the reference that a statement makes.
-/

namespace EditGuard.Imports

open Text

/-- A dependency as the source spells it, at the start of its import statement. -/
structure ImportRef where
  token : List Char
  location : Location
  deriving DecidableEq, Repr

def dropKeyword? (before : Option Char) (t : List Char) : Option (List Char) := do
  let rest ← List.isPrefixOf? "import".toList t
  if endsBeforeWord before then dropBlanks? rest else none

def dropLeadingWord? (word : String) (t : List Char) : Option (List Char) :=
  (List.isPrefixOf? word.toList t).bind dropBlanks?

/-- The longest beginning of characters of one kind, when there is one, and the text behind it. -/
def takeRun? (accepts : Char → Bool) (t : List Char) : Option (List Char × List Char) :=
  match t.takeWhile accepts with
  | [] => none
  | run => some (run, t.dropWhile accepts)

def isPlainWord (c : Char) : Bool := c.isAlphanum || c = '_'

def references (statement : Recogniser (List Char)) (source : List Char) : List ImportRef :=
  let lines := LineIndex.ofText source
  (statement.scan source).map fun hit => ⟨hit.value, lines.location hit.offset⟩

end EditGuard.Imports
