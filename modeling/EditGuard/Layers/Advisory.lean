import EditGuard.Layers.Report

/-! # Advice on layer violations -/

namespace EditGuard.Layers

/-- Names joined by commas, or what stands for no name. -/
def listed (nothing : String) (names : List String) : String :=
  if names.isEmpty then nothing else String.intercalate ", " names

namespace Report

def violationLine (v : Violation) : String :=
  s!"- {v.dependency} ({v.dependencyLayer}) at line {v.location.line}"

def layerTitle (r : Report) : String :=
  if r.title.isEmpty then r.layer else s!"{r.layer} ({r.title})"

def suggestion (r : Report) : String :=
  let allowed := listed "no other layer" r.allowed
  "Suggestion: remove the disallowed dependencies, move the file to the layer it belongs to, " ++
  s!"or route the call through a permitted layer ({r.layer} may depend on {allowed})"

def advisory? (r : Report) : Option String :=
  if r.isClean then none
  else some (String.intercalate "\n" (
    ["⚠️ Architecture layer warning: disallowed dependencies detected",
      "",
      s!"File: {r.path}",
      s!"Layer: {r.layerTitle}",
      "",
      "Disallowed dependencies:"] ++
    r.violations.map violationLine ++
    ["",
      s!"Architecture rule: {r.rule}",
      r.suggestion]))

end Report

end EditGuard.Layers
