import EditGuard.Fault
import EditGuard.Layers.Ruleset

/-! # Consistency of rulesets

Names are unique and refer to something that is declared, and no rule is empty. All faults are
listed in the order of the checks, and the first one is reported.
-/

namespace EditGuard.Layers

/-- A fault of rulesets. Rules are numbered from zero within their ecosystem. -/
inductive Inconsistency where
  | unnamedEcosystem
  | repeatedEcosystem (name : String)
  | repeatedLayer (ecosystem layer : String)
  | unknownDependency (ecosystem layer dependency : String)
  | selfDependency (ecosystem layer : String)
  | noExtensions (ecosystem : String) (index : Nat)
  | unknownPathLayer (ecosystem : String) (index : Nat) (layer : String)
  | noFragments (ecosystem : String) (index : Nat)
  | unknownImportLayer (ecosystem : String) (index : Nat) (layer : String)
  | unknownPriority (name : String)
  | repeatedPriority (name : String)
  deriving DecidableEq, Repr

namespace Inconsistency

def message : Inconsistency → String
  | unnamedEcosystem => "ecosystem with empty name"
  | repeatedEcosystem name => s!"ecosystem '{name}' defined twice"
  | repeatedLayer ecosystem layer => s!"{ecosystem}: layer '{layer}' defined twice"
  | unknownDependency ecosystem layer dependency =>
    s!"{ecosystem}.{layer}: unknown dep '{dependency}'"
  | selfDependency ecosystem layer => s!"{ecosystem}.{layer}: self-dependency"
  | noExtensions ecosystem index => s!"{ecosystem}.paths[{index}]: no extensions"
  | unknownPathLayer ecosystem index layer =>
    s!"{ecosystem}.paths[{index}]: unknown layer '{layer}'"
  | noFragments ecosystem index => s!"{ecosystem}.imports[{index}]: no fragments"
  | unknownImportLayer ecosystem index layer =>
    s!"{ecosystem}.imports[{index}]: unknown layer '{layer}'"
  | unknownPriority name => s!"priority: unknown ecosystem '{name}'"
  | repeatedPriority name => s!"priority: '{name}' listed twice"

def diagnostic (i : Inconsistency) : Diagnostic where
  message := s!"architecture config validation: {i.message}"
  code := "spec_hooks::arch::validation"
  help := some "run \x60spec-hooks list-rules\x60 to see the rulesets in effect"

end Inconsistency

/-- Every item together with those before it, of which the nearest comes first. -/
def withEarlier {α : Type} (earlier : List α) : List α → List (List α × α)
  | [] => []
  | a :: rest => (earlier, a) :: withEarlier (a :: earlier) rest

def faultIf (condition : Bool) (fault : Inconsistency) : List Inconsistency :=
  if condition then [fault] else []

namespace Ecosystem

def declares (e : Ecosystem) (layer : String) : Bool := e.layers.any (·.name == layer)

def layerFaults (e : Ecosystem) : List Inconsistency :=
  (withEarlier [] e.layers).flatMap fun (earlier, l) =>
    faultIf (earlier.any (·.name == l.name)) (.repeatedLayer e.name l.name)

def dependencyFaults (e : Ecosystem) : List Inconsistency :=
  e.layers.flatMap fun l => l.allows.flatMap fun dependency =>
    faultIf (!e.declares dependency) (.unknownDependency e.name l.name dependency) ++
    faultIf (dependency == l.name) (.selfDependency e.name l.name)

def pathFaults (e : Ecosystem) : List Inconsistency :=
  e.paths.zipIdx.flatMap fun (rule, index) =>
    faultIf rule.extensions.isEmpty (.noExtensions e.name index) ++
    faultIf (!e.declares rule.layer) (.unknownPathLayer e.name index rule.layer)

def importFaults (e : Ecosystem) : List Inconsistency :=
  e.imports.zipIdx.flatMap fun (rule, index) =>
    faultIf rule.fragments.isEmpty (.noFragments e.name index) ++
    faultIf (!e.declares rule.layer) (.unknownImportLayer e.name index rule.layer)

def faults (e : Ecosystem) : List Inconsistency :=
  e.layerFaults ++ e.dependencyFaults ++ e.pathFaults ++ e.importFaults

end Ecosystem

namespace Rulesets

def ecosystemFaults (r : Rulesets) : List Inconsistency :=
  (withEarlier [] r.ecosystems).flatMap fun (earlier, e) =>
    faultIf e.name.isEmpty .unnamedEcosystem ++
    faultIf (earlier.any (·.name == e.name)) (.repeatedEcosystem e.name) ++ e.faults

def priorityFaults (r : Rulesets) : List Inconsistency :=
  (withEarlier [] r.priority).flatMap fun (earlier, name) =>
    faultIf (r.ecosystem? name).isNone (.unknownPriority name) ++
    faultIf (earlier.contains name) (.repeatedPriority name)

def faults (r : Rulesets) : List Inconsistency := r.ecosystemFaults ++ r.priorityFaults

def validate (r : Rulesets) : Except Inconsistency Unit :=
  match r.faults with
  | [] => .ok ()
  | fault :: _ => .error fault

end Rulesets

end EditGuard.Layers
