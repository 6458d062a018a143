import EditGuard.Config.Settings
import EditGuard.Hook.Payload
import EditGuard.Layers.Report
import EditGuard.Review.Gate
import EditGuard.Text.Quoted
import EditGuard.Time.Instant

/-! # Log events

What happened during a run, in the order in which it happened. An event is one line: the time, the
level, a message and fields.
-/

namespace EditGuard.Log

open Config Hook Layers Review Text Time

inductive Level where
  | error
  | warn
  | info
  | debug
  | trace
  deriving DecidableEq, Repr

namespace Level

def all : List Level := [error, warn, info, debug, trace]

def name : Level → String
  | error => "ERROR"
  | warn => "WARN"
  | info => "INFO"
  | debug => "DEBUG"
  | trace => "TRACE"

/-- The more a level tells, the higher it is; zero is left for none. -/
def rank : Level → Nat
  | error => 1
  | warn => 2
  | info => 3
  | debug => 4
  | trace => 5

def column (l : Level) : String := "".pushn ' ' (5 - l.name.length) ++ l.name

end Level

inductive Event where
  | noDirectory (fault : Fault)
  | sourceFound (source : Source)
  | sourceSelected (source : Source)
  | payloadUnreadable (error : PayloadError)
  | payloadUndecoded (error : Json.ReadError) (raw : Bytes)
  | settingsLoaded (source : Source)
  | settingsRefused (error : LoadError)
  | noTarget (hook : Kind)
  | policyRefused (error : InvalidPattern)
  | snippetRepeated
  | noLayer (path : String)
  | layersChecked (report : Report)
  | strayMarker (line : Nat)
  | gateDecided (path : String) (decision : Decision)
  | outputRefused (fault : Fault)

/-! ## Decisions as fields show them -/

def reasonText : AllowReason → String
  | .notGated => "NotGated"
  | .noPhases => "NoPhases"
  | .outsidePhases => "OutsidePhases"
  | .firstPhase => "FirstPhase"
  | .priorPhasesApproved => "PriorPhasesApproved"

def statusText : Option Status → String
  | none => "None"
  | some .draft => "Some(Draft)"
  | some .reviewing => "Some(Reviewing)"
  | some .approved => "Some(Approved)"
  | some .rejected => "Some(Rejected)"

def decisionText : Decision → String
  | .allow reason => "Allow \x7b reason: " ++ reasonText reason ++ " \x7d"
  | .deny b =>
    s!"Deny(Blocked \x7b editing_phase: {b.editing}, blocking_phase: {b.blocking}, " ++
      "status: " ++ statusText b.status ++ " \x7d)"

namespace Event

def level : Event → Level
  | noDirectory _ => .warn
  | payloadUnreadable _ => .warn
  | settingsRefused _ => .warn
  | policyRefused _ => .warn
  | outputRefused _ => .warn
  | _ => .debug

def target : Event → String
  | noDirectory _ => "spec_hooks"
  | sourceFound _ => "spec_hooks::config_resolver"
  | sourceSelected _ => "spec_hooks"
  | payloadUnreadable _ => "spec_hooks::commands::hook"
  | payloadUndecoded _ _ => "spec_hooks_core::payload"
  | settingsLoaded _ => "spec_hooks::settings"
  | settingsRefused _ => "spec_hooks::commands::hook"
  | noTarget .architecture => "spec_hooks::commands::architecture"
  | noTarget .phaseReview => "spec_hooks::commands::phase_review"
  | policyRefused _ => "spec_hooks::commands::phase_review"
  | snippetRepeated => "spec_hooks::commands::phase_review"
  | noLayer _ => "spec_hooks_arch::engine"
  | layersChecked _ => "spec_hooks_arch::engine"
  | strayMarker _ => "spec_hooks_review::document"
  | gateDecided _ _ => "spec_hooks_review::gate"
  | outputRefused _ => "spec_hooks::commands::hook"

def foundText : Source → String
  | .explicit path => s!"Found config: {path}"
  | .project path => s!"Found project config: {path}"
  | .global path => s!"Found global config: {path}"
  | .builtin => "Found no config"

def message : Event → String
  | noDirectory fault =>
    s!"working directory unavailable, skipping project config: {fault.message}"
  | sourceFound source => foundText source
  | sourceSelected source => s!"configuration: {source.display}"
  | payloadUnreadable error => error.diagnostic.message
  | payloadUndecoded error raw => s!"payload is not JSON: {error.message raw}"
  | settingsLoaded source => s!"Using configuration from {source.display}"
  | settingsRefused error =>
    s!"configuration unusable, passing edit through: {error.summary}: {error.cause}"
  | noTarget _ => "payload has no file path or content"
  | policyRefused error =>
    s!"review config unusable, passing edit through: {error.diagnostic.message}"
  | snippetRepeated => "edit snippet occurs more than once, ignoring it as a hint"
  | noLayer _ => "no layer matched, skipping"
  | layersChecked _ => "layer check finished"
  | strayMarker _ => "status marker outside any phase, ignored"
  | gateDecided _ _ => "phase gate evaluated"
  | outputRefused fault => s!"failed to write hook output: {fault.message}"

/-- The fields with their values as shown; texts are quoted, but for the name of an ecosystem. -/
def fields : Event → List (String × String)
  | noLayer path => [("file", quoted path)]
  | layersChecked r =>
    [("file", quoted r.path), ("ecosystem", r.ecosystem), ("layer", quoted r.layer),
      ("imports", toString r.importsChecked), ("violations", toString r.violations.length)]
  | strayMarker line => [("line", toString line)]
  | gateDecided path decision =>
    [("file", quoted path), ("decision", decisionText decision)]
  | _ => []

/-- The message is a field like any other to a filter. -/
def fieldNames (e : Event) : List String := "message" :: e.fields.map (·.1)

def plainChar (c : Char) : List Char :=
  if c = '\x07' || c = '\x08' || c = '\x0c' || c = '\x1b' || c = '\x7f' then
    ['\\', 'x'] ++ (if c.toNat < 16 then ['0'] else []) ++ hexDigits c.toNat
  else if 0x80 ≤ c.toNat && c.toNat ≤ 0x9f then
    ['\\', 'u', '\x7b'] ++ hexDigits c.toNat ++ ['\x7d']
  else [c]

def plain (s : String) : String := String.ofList (s.toList.flatMap plainChar)

def line (now : Instant) (e : Event) : String :=
  e.fields.foldl (fun line (name, value) => line ++ " " ++ name ++ "=" ++ value)
    (now.logStamp ++ " " ++ e.level.column ++ " " ++ plain e.message)

end Event

end EditGuard.Log
