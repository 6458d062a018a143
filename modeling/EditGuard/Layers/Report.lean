import EditGuard.Layers.Resolver

/-! # Layer reports -/

namespace EditGuard.Layers

open Text

structure Violation where
  layer : String
  dependency : String
  dependencyLayer : String
  rule : String
  location : Location
  deriving DecidableEq, Repr

structure Report where
  path : String
  ecosystem : String
  title : String
  layer : String
  /-- The layers that the layer of the file may depend on. -/
  allowed : List String
  rule : String
  importsChecked : Nat
  violations : List Violation
  deriving DecidableEq, Repr

def Report.isClean (r : Report) : Bool := r.violations.isEmpty

namespace Ecosystem

/-- The violation that an import of a file in a layer is, if it is one. Imports of no known layer
are none. -/
def violation? (e : Ecosystem) (resolver : Resolver) (layer : String) (ref : Imports.ImportRef) :
    Option Violation :=
  match resolver.importLayer? e.name ref.token with
  | none => none
  | some target =>
    if e.allows layer target then none
    else some ⟨layer, String.ofList ref.token, target, e.rule, ref.location⟩

def report (e : Ecosystem) (resolver : Resolver) (path : String) (layer : String)
    (content : List Char) : Report :=
  let refs := e.importSyntax.extract content
  { path, layer
    ecosystem := e.name
    title := e.title
    allowed := e.allowed layer
    rule := e.rule
    importsChecked := refs.length
    violations := refs.filterMap (e.violation? resolver layer) }

end Ecosystem

/-- Reports on a file, unless it belongs to no layer. -/
def Rulesets.check (r : Rulesets) (path : String) (content : List Char) : Option Report := do
  let resolver := Resolver.ofRulesets r
  let place ← resolver.place? path.toList
  let e ← r.ecosystem? place.ecosystem
  some (e.report resolver path place.layer content)

end EditGuard.Layers
