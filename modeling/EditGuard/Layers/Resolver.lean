import EditGuard.Layers.Ruleset
import EditGuard.Text.Basic
import EditGuard.Text.Lowercase

/-! # Placing files and imports in layers

The path rules of all ecosystems form one list, in the order of the ecosystems, and the first rule
that fits a path decides its ecosystem as well as its layer. Letter case, the kind of separator and
dots before an extension do not matter.
-/

namespace EditGuard.Layers

open Text

structure Place where
  ecosystem : String
  layer : String
  deriving DecidableEq, Repr

/-- A path rule in lowercase, its extensions without leading dots. -/
structure PathMatcher where
  extensions : List (List Char)
  fragments : List (List Char)
  place : Place
  deriving DecidableEq, Repr

structure ImportMatcher where
  fragments : List (List Char)
  layer : String
  deriving DecidableEq, Repr

def lowercaseText (s : String) : List Char := lowercase s.toList

/-- A path with one kind of separator, in lowercase. -/
def normalisePath (path : List Char) : List Char :=
  lowercase (path.map fun c => if c = '\\' then '/' else c)

/-- What follows the last dot of the last component, with text on both sides of the dot. -/
def extension? (path : List Char) : Option (List Char) :=
  let name := afterLast (· = '/') path
  let extension := afterLast (· = '.') name
  if extension.length + 1 < name.length && !extension.isEmpty then some extension else none

namespace PathMatcher

def ofRule (ecosystem : String) (rule : PathRule) : PathMatcher where
  extensions := rule.extensions.map fun e => lowercase (e.toList.dropWhile (· = '.'))
  fragments := rule.fragments.map lowercaseText
  place := ⟨ecosystem, rule.layer⟩

def accepts (m : PathMatcher) (path extension : List Char) : Bool :=
  m.extensions.contains extension &&
    (m.fragments.isEmpty || m.fragments.any (occursIn · path))

end PathMatcher

namespace ImportMatcher

def ofRule (rule : ImportRule) : ImportMatcher := ⟨rule.fragments.map lowercaseText, rule.layer⟩

def accepts (m : ImportMatcher) (token : List Char) : Bool := m.fragments.any (occursIn · token)

end ImportMatcher

/-- The rules of all ecosystems, ready to match; those for imports are kept for each ecosystem. -/
structure Resolver where
  paths : List PathMatcher
  imports : List (String × List ImportMatcher)
  deriving DecidableEq, Repr

namespace Resolver

def ofRulesets (r : Rulesets) : Resolver where
  paths := r.ordered.flatMap fun e => e.paths.map (PathMatcher.ofRule e.name)
  imports := r.ordered.map fun e => (e.name, e.imports.map ImportMatcher.ofRule)

def place? (r : Resolver) (path : List Char) : Option Place :=
  let path := normalisePath path
  match extension? path with
  | none => none
  | some extension => (r.paths.find? (·.accepts path extension)).map (·.place)

/-- The import rules of an ecosystem; of several with one name, those of the last. -/
def importRules (r : Resolver) (ecosystem : String) : List ImportMatcher :=
  (r.imports.reverse.lookup ecosystem).getD []

def importLayer? (r : Resolver) (ecosystem : String) (token : List Char) : Option String :=
  let token := lowercase token
  ((r.importRules ecosystem).find? (·.accepts token)).map (·.layer)

end Resolver

end EditGuard.Layers
