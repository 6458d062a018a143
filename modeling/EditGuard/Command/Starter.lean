import EditGuard.Command.Check

/-! # A starting configuration -/

namespace EditGuard.Command

open Config Hook Text

/-- The configuration that a project starts from, which says what holds without one. -/
def starterLines : List String := [
  "# spec-hooks configuration",
  "#",
  "# Both sections are optional. Without [architecture] the built-in Java,",
  "# Swift, Vue and TypeScript rulesets apply (see `spec-hooks list-rules`).",
  "",
  "[review]",
  "# Base-name patterns of documents guarded by the phase review gate.",
  "documents = [\"*.spec.md\", \"*.prd.md\", \"prd.md\"]",
  "",
  "# A custom [architecture] section replaces every built-in ruleset.",
  "# `syntax` picks the import parser: java (`import a.b.C;`, the trailing `;`",
  "# is required), swift (`import Module`) or es-module (`import x from '...'`).",
  "#",
  "# [architecture]",
  "# priority = [\"react\"]",
  "#",
  "# [[architecture.ecosystems]]",
  "# name = \"react\"",
  "# title = \"React layering\"",
  "# syntax = \"es-module\"",
  "# rule = \"pages → hooks → api\"",
  "#",
  "# [[architecture.ecosystems.layers]]",
  "# name = \"pages\"",
  "# allows = [\"hooks\"]",
  "#",
  "# [[architecture.ecosystems.layers]]",
  "# name = \"hooks\"",
  "# allows = [\"api\"]",
  "#",
  "# [[architecture.ecosystems.layers]]",
  "# name = \"api\"",
  "#",
  "# [[architecture.ecosystems.paths]]",
  "# extensions = [\"ts\", \"tsx\"]",
  "# fragments = [\"/pages/\"]",
  "# layer = \"pages\"",
  "#",
  "# [[architecture.ecosystems.paths]]",
  "# extensions = [\"ts\", \"tsx\"]",
  "# fragments = [\"/hooks/\"]",
  "# layer = \"hooks\"",
  "#",
  "# [[architecture.ecosystems.paths]]",
  "# extensions = [\"ts\", \"tsx\"]",
  "# fragments = [\"/api/\"]",
  "# layer = \"api\"",
  "#",
  "# [[architecture.ecosystems.imports]]",
  "# fragments = [\"/hooks/\"]",
  "# layer = \"hooks\"",
  "#",
  "# [[architecture.ecosystems.imports]]",
  "# fragments = [\"/api/\"]",
  "# layer = \"api\""]

def starterAdvice (path : String) : List String := [
  s!"Created {path}",
  "",
  "Next steps:",
  "  1. Adjust [review] documents for your naming convention",
  "  2. Register the hooks with your editor:",
  "       spec-hooks architecture",
  "       spec-hooks phase-review"]

def starterPath : String := "spec-hooks.toml"

namespace Host

/-- Writes the starting configuration. A file that is there is kept, unless it is forced. -/
def runInit (h : Host) (stderr : Hook.Output) (force : Bool) : Finish :=
  if h.isThere starterPath && !force then
    h.fail stderr ⟨s!"Configuration file already exists at {starterPath}. " ++
      "Use --force to overwrite.", none⟩
  else match h.tree.write h.barriers h.directory starterPath (toUtf8 (linesText starterLines)) with
    | (tree, some fault) => Host.fail { h with tree } stderr ⟨fault.message, none⟩
    | (tree, none) => Host.finish { h with tree } stderr 0 (linesText (starterAdvice starterPath))

end Host

end EditGuard.Command
