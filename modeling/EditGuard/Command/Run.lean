import EditGuard.Command.Check
import EditGuard.Command.Hooks
import EditGuard.Command.Listing
import EditGuard.Command.Starter

/-! # Running the program -/

namespace EditGuard.Command

open Config Hook Log

def versionText : String := "spec-hooks 0.3.0\n"

def helpText : String := linesText [
  "Editor hooks for layered architecture and phased spec review",
  "",
  "Usage: spec-hooks [OPTIONS] <COMMAND>",
  "",
  "Commands:",
  "  architecture  Architecture layer hook (reads the edit payload on stdin, never blocks)",
  "  phase-review  Phase review gate hook (reads the edit payload on stdin, exits 1 to deny)",
  "  check         Run both checkers on files from disk",
  "  list-rules    List the active layer rulesets and gated documents",
  "  init          Initialize configuration file",
  "  help          Print this message or the help of the given subcommand(s)",
  "",
  "Options:",
  "  -v, --verbose          Enable verbose output",
  "  -c, --config <CONFIG>  Path to configuration file [env: SPEC_HOOKS_CONFIG=]",
  "  -h, --help             Print help",
  "  -V, --version          Print version"]

def usageText (f : UsageFault) : String :=
  s!"error: {f.message}\n\nFor more information, try '--help'.\n"

def usageCode : Nat := 2

namespace Host

/-- The filter that the verbose option asks for, or else the environment; without either, and when
it cannot be read, nothing is logged. -/
def filter (h : Host) (verbose : Bool) : Filter :=
  if verbose then Filter.verbose
  else ((h.value? "SPEC_HOOKS_LOG").bind Filter.ofText?).getD Filter.nothing

def sourceEvents (h : Host) (source : Source) : List Event :=
  (h.directoryFault?.map .noDirectory).toList ++
    (match source with
      | .project _ => [.sourceFound source]
      | .global _ => [.sourceFound source]
      | _ => []) ++
    [.sourceSelected source]

def withSettings (h : Host) (filter : Filter) (source : Source)
    (run : Hook.Output → Settings → Finish) : Finish :=
  h.logging filter h.stderr (h.sourceEvents source) fun stderr =>
    match Settings.load h.toSurroundings source with
    | .error e => h.fail stderr (Failure.ofLoadError e)
    | .ok settings => h.logging filter stderr [.settingsLoaded source] fun stderr =>
        run stderr settings

def runInvocation (h : Host) (i : Invocation) : Finish :=
  let filter := h.filter i.verbose
  let source := Source.select h.toSurroundings i.config
  let earlier := h.sourceEvents source
  match i.task with
  | .architecture => h.runHook filter earlier source judgeLayers
  | .phaseReview editLine => h.runHook filter earlier source (judgePhases editLine h.now)
  | .check paths format =>
    h.withSettings filter source fun stderr settings =>
      h.runCheck filter stderr settings paths format
  | .listRules => h.withSettings filter source h.runListing
  | .init force => h.logging filter h.stderr earlier fun stderr => h.runInit stderr force

/-- Ends without running a command. Where a hook was meant, the edit passes all the same. -/
def stop (h : Host) (args : List String) : Stop → Finish
  | .help => ⟨0, (h.stdout.write (Text.toUtf8 helpText)).1, h.stderr, h.tree⟩
  | .version => ⟨0, (h.stdout.write (Text.toUtf8 versionText)).1, h.stderr, h.tree⟩
  | .nothing => ⟨usageCode, h.stdout, (h.stderr.write (Text.toUtf8 helpText)).1, h.tree⟩
  | .usage f =>
    if namesHook args then h.passThrough (usageText f)
    else ⟨usageCode, h.stdout, (h.stderr.write (Text.toUtf8 (usageText f))).1, h.tree⟩

def run (h : Host) (args : List String) : Finish :=
  match Invocation.ofArguments args (h.value? "SPEC_HOOKS_CONFIG") with
  | .ok i => h.runInvocation i
  | .error s => h.stop args s

end Host

end EditGuard.Command
