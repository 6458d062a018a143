import EditGuard.Command.Check

/-! # Listing the rules in effect -/

namespace EditGuard.Command

open Config Hook Layers Log

def column (width : Nat) (text : String) : String :=
  text ++ "".pushn ' ' (width - text.length)

def layerWidth : Nat := 14

def layerRow (layer allows : String) : String := s!"  {column layerWidth layer} {allows}"

def pathRuleLine (r : PathRule) : String :=
  "    [" ++ String.intercalate ", " r.extensions ++ "] " ++
    (if r.fragments.isEmpty then "*" else String.intercalate " | " r.fragments) ++
    " -> " ++ r.layer

def ecosystemTitle (e : Ecosystem) : String :=
  if e.title.isEmpty then s!"{e.name} [{e.importSyntax.name}]"
  else s!"{e.name} - {e.title} [{e.importSyntax.name}]"

def ecosystemLines (e : Ecosystem) : List String :=
  [ecosystemTitle e,
    s!"  rule: {e.rule}",
    layerRow "Layer" "May depend on",
    "  " ++ "".pushn '-' 40] ++
  e.layers.map (fun l => layerRow l.name (listed "-" l.allows)) ++
  ["  path rules:"] ++
  e.paths.map pathRuleLine ++
  [""]

/-- The rulesets in the order in which they are tried, and the gated documents. -/
def listing (settings : Settings) : List String :=
  [s!"Configuration: {settings.source.display}",
    "",
    "Architecture rulesets (classification order):",
    ""] ++
  settings.rulesets.ordered.flatMap ecosystemLines ++
  ["Phase review documents: " ++ String.intercalate ", " settings.policy.documents]

namespace Host

def runListing (h : Host) (stderr : Hook.Output) (settings : Settings) : Finish :=
  h.finish stderr 0 (linesText (listing settings))

end Host

end EditGuard.Command
