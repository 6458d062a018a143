import EditGuard.Command.Host
import EditGuard.Hook.Verdict

/-! # Running the hooks

A hook reads the payload to its end, judges it and writes the outcome. An unreadable payload counts
as a blank one, and with an unusable configuration the edit passes.
-/

namespace EditGuard.Command

open Config Hook Log

def receivedPayload (input : Input) : Payload :=
  match Payload.receive input with
  | .ok p => p
  | .error _ => Payload.ofBytes []

def payloadEvents (input : Input) : List Event :=
  match Payload.receive input with
  | .error e => [.payloadUnreadable e]
  | .ok p =>
    match p.document with
    | .ok _ => []
    | .error e => if p.isBlank then [] else [.payloadUndecoded e p.raw]

/-- Judges a payload under the settings of a source, if they can be loaded. -/
def verdict (s : Surroundings) (source : Source) (judge : Settings → Payload → Verdict)
    (p : Payload) : Verdict :=
  match Settings.load s source with
  | .error e => ⟨.pass, [.settingsRefused e]⟩
  | .ok settings =>
    let v := judge settings p
    ⟨v.outcome, .settingsLoaded source :: v.events⟩

namespace Host

def runHook (h : Host) (filter : Filter) (earlier : List Event) (source : Source)
    (judge : Settings → Payload → Verdict) : Finish :=
  let p := receivedPayload h.stdin
  let v := verdict h.toSurroundings source judge p
  h.logging filter h.stderr (earlier ++ payloadEvents h.stdin ++ v.events) fun stderr =>
    let e := v.outcome.emit p h.stdout stderr
    let refusals := e.fault.toList.map .outputRefused
    Host.logging { h with stdout := e.stdout } filter e.stderr refusals fun stderr =>
      ⟨v.outcome.exitCode, e.stdout, stderr, h.tree⟩

/-- Lets the edit pass without judging it, behind a text on standard error. If that is refused, the
run ends there. -/
def passThrough (h : Host) (text : String) : Finish :=
  match h.stderr.write (Text.toUtf8 text) with
  | (stderr, none) =>
    let e := Outcome.pass.emit (receivedPayload h.stdin) h.stdout stderr
    ⟨Outcome.pass.exitCode, e.stdout, e.stderr, h.tree⟩
  | (stderr, some fault) =>
    let line := s!"failed printing to stderr: {fault.message}"
    ⟨unwritableCode, h.stdout, (stderr.writeLine line).1, h.tree⟩

end Host

end EditGuard.Command
