import EditGuard.Command.Arguments
import EditGuard.Command.Host
import EditGuard.Hook.Verdict
import EditGuard.Json.Printer

/-! # Checking files -/

namespace EditGuard.Command

open Config Files Hook Layers Log Review

structure Finding where
  path : FilePath
  /-- Of files that belong to a layer. -/
  report : Option Report
  /-- On editing the last phase, of gated documents. -/
  decision : Option Decision
  deriving DecidableEq, Repr

namespace Finding

def ofFile (rulesets : Rulesets) (gated : GatedDocuments) (path : FilePath)
    (content : List Char) : Finding where
  path := path
  report := rulesets.check path.display content
  decision :=
    let shown := path.display.toList
    if gated.contains shown then some (gated.evaluate shown content none) else none

def isBlocked (f : Finding) : Bool := f.decision.any (!·.isAllowed)

def violations (f : Finding) : List Violation := (f.report.map (·.violations)).getD []

def events (f : Finding) (gated : GatedDocuments) (content : List Char) : List Event :=
  layerEvents f.path.display f.report ++
    match f.decision with
    | some d => gateEvents gated f.path.display content d
    | none => []

end Finding

/-! ## Text -/

def coloured (code : String) (text : String) : String :=
  "\x1b[" ++ code ++ "m" ++ text ++ "\x1b[0m"

def red : String := "31"

def yellow : String := "33"

def green : String := "32"

def reasonPhrase : AllowReason → String
  | .notGated => "not a gated document"
  | .noPhases => "no phase headings"
  | .outsidePhases => "outside every phase"
  | .firstPhase => "first phase"
  | .priorPhasesApproved => "all earlier phases approved"

def violationText (allowed : List String) (v : Violation) : String :=
  "  " ++ coloured yellow "warning" ++
    s!": {v.dependency} ({v.dependencyLayer}) at {v.location.display}, " ++
    s!"{v.layer} may depend on: " ++ listed "nothing" allowed

def reportText (r : Report) : List String :=
  s!"  layer {r.layer} ({r.ecosystem}), {r.importsChecked} import(s) checked" ::
    r.violations.map (violationText r.allowed)

def decisionLine : Decision → String
  | .deny b =>
    "  " ++ coloured red "error" ++
      s!": Phase {b.blocking} is {b.statusName}, Phase {b.editing} cannot be edited yet"
  | .allow reason => s!"  review gate: open ({reasonPhrase reason})"

/-- The lines on a file; a file of no layer that is not gated has none. -/
def findingText (f : Finding) : List String :=
  if f.report.isNone && f.decision.isNone then []
  else
    [f.path.display] ++ ((f.report.map reportText).getD []) ++
      (f.decision.map decisionLine).toList ++ [""]

def summaryText (fs : List Finding) : String :=
  let violations := (fs.flatMap (·.violations)).length
  let blocked := (fs.filter (·.isBlocked)).length
  let colour := if 0 < blocked then red else if 0 < violations then yellow else green
  coloured colour
    (s!"Found {violations} layer violation(s), {blocked} blocked document(s) " ++
      s!"in {fs.length} file(s)")

/-! ## JSON -/

def violationJson (v : Violation) : Json.Value :=
  .object [
    ("layer", .string v.layer),
    ("dependency", .string v.dependency),
    ("dependency_layer", .string v.dependencyLayer),
    ("rule", .string v.rule),
    ("location", .object [
      ("line", .ofNat v.location.line),
      ("column", .ofNat v.location.column),
      ("offset", .ofNat v.location.offset)])]

def reportJson (r : Report) : Json.Value :=
  .object [
    ("file_path", .string r.path),
    ("ecosystem", .string r.ecosystem),
    ("title", .string r.title),
    ("layer", .string r.layer),
    ("allowed", .ofStrings r.allowed),
    ("rule", .string r.rule),
    ("imports_checked", .ofNat r.importsChecked),
    ("violations", .array (r.violations.map violationJson))]

def reasonKey : AllowReason → String
  | .notGated => "not-gated"
  | .noPhases => "no-phases"
  | .outsidePhases => "outside-phases"
  | .firstPhase => "first-phase"
  | .priorPhasesApproved => "prior-phases-approved"

def decisionJson : Decision → Json.Value
  | .allow reason =>
    .object [("decision", .string "allow"), ("reason", .string (reasonKey reason))]
  | .deny b =>
    .object [
      ("decision", .string "deny"),
      ("editing_phase", .ofNat b.editing),
      ("blocking_phase", .ofNat b.blocking),
      ("status", (b.status.map fun s => Json.Value.string s.name).getD .null)]

/-- A path stands for itself in JSON, which it can only if it is a text. -/
def findingJson? (f : Finding) : Option Json.Value := do
  let path ← f.path.text?
  some (.object [
    ("path", .string path),
    ("architecture", (f.report.map reportJson).getD .null),
    ("review", (f.decision.map decisionJson).getD .null)])

/-! ## Compact -/

def violationLine (path : String) (v : Violation) : String :=
  s!"{path}:{v.location.display}: warning [layer] {v.layer} -> {v.dependencyLayer} " ++
    s!"({v.dependency})"

def findingLines (f : Finding) : List String :=
  f.violations.map (violationLine f.path.display) ++
    match f.decision with
    | some (.deny b) =>
      [s!"{f.path.display}: error [phase-review] Phase {b.blocking} not approved, " ++
        s!"Phase {b.editing} blocked"]
    | _ => []

/-! ## All files -/

def outputLines (format : Format) (fs : List Finding) : Except Failure (List String) :=
  match format with
  | .text => .ok (fs.flatMap findingText ++ [summaryText fs])
  | .json =>
    match fs.mapM findingJson? with
    | some values => .ok [(Json.Value.array values).pretty 0]
    | none => .error ⟨"path contains invalid UTF-8 characters", none⟩
  | .compact => .ok (fs.flatMap findingLines)

def linesText (lines : List String) : String := String.join (lines.map (· ++ "\n"))

/-- The files that could be read, up to the first that could not, which is the failure. -/
def readFiles (s : Surroundings) : List FilePath → List (FilePath × List Char) × Option Failure
  | [] => ([], none)
  | path :: paths =>
    match s.readFile path with
    | .error fault => ([], some ⟨s!"Failed to read {path.display}", some fault.message⟩)
    | .ok text =>
      let (files, failure) := readFiles s paths
      ((path, text.toList) :: files, failure)

namespace Host

/-- Ends with findings. A blocked document is a failure, a violation is not. -/
def report (h : Host) (stderr : Hook.Output) (format : Format) (fs : List Finding) : Finish :=
  match outputLines format fs with
  | .error failure => h.fail stderr failure
  | .ok lines => h.finish stderr (if fs.any (·.isBlocked) then 1 else 0) (linesText lines)

def runCheck (h : Host) (filter : Filter) (stderr : Hook.Output) (settings : Settings)
    (paths : List FilePath) (format : Format) : Finish :=
  match GatedDocuments.compile settings.policy.documents with
  | .error e => h.fail stderr ⟨"Review config validation failed", some e.diagnostic.message⟩
  | .ok gated =>
    let (files, failure) := readFiles h.toSurroundings paths
    let findings := files.map fun (path, content) =>
      (Finding.ofFile settings.rulesets gated path content, content)
    let events := findings.flatMap fun (f, content) => f.events gated content
    h.logging filter stderr events fun stderr =>
      match failure with
      | some failure => h.fail stderr failure
      | none => h.report stderr format (findings.map (·.1))

end Host

end EditGuard.Command
