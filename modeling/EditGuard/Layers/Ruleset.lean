import EditGuard.Imports.Syntax

/-! # Layer rulesets

An ecosystem is a set of layers with the layers that each may depend on, and with the rules that
place files and imports in layers. Every layer may depend on itself.
-/

namespace EditGuard.Layers

open Imports

structure Layer where
  name : String
  allows : List String
  deriving DecidableEq, Repr

/-- Places the files with one of the extensions whose path holds one of the fragments; without
fragments, all files with one of the extensions. -/
structure PathRule where
  extensions : List String
  fragments : List String
  layer : String
  deriving DecidableEq, Repr

structure ImportRule where
  fragments : List String
  layer : String
  deriving DecidableEq, Repr

structure Ecosystem where
  name : String
  title : String
  /-- The rule in words, for those who broke it. -/
  rule : String
  importSyntax : ImportSyntax
  layers : List Layer
  paths : List PathRule
  imports : List ImportRule
  deriving DecidableEq, Repr

namespace Ecosystem

def layer? (e : Ecosystem) (name : String) : Option Layer := e.layers.find? (·.name == name)

def allowed (e : Ecosystem) (name : String) : List String :=
  ((e.layer? name).map (·.allows)).getD []

def allows (e : Ecosystem) (source target : String) : Bool :=
  source == target || (e.allowed source).contains target

end Ecosystem

/-- Ecosystems, and the names of those that come first when a file is placed. -/
structure Rulesets where
  priority : List String
  ecosystems : List Ecosystem
  deriving DecidableEq, Repr

namespace Rulesets

def ecosystem? (r : Rulesets) (name : String) : Option Ecosystem :=
  r.ecosystems.find? (·.name == name)

/-- The ecosystems that the priority names, and then the others as declared. -/
def ordered (r : Rulesets) : List Ecosystem :=
  r.priority.filterMap r.ecosystem? ++ r.ecosystems.filter (!r.priority.contains ·.name)

end Rulesets

end EditGuard.Layers
