import EditGuard.Hook.Stream
import EditGuard.Log.Filter

/-! # The host of a run -/

namespace EditGuard.Command

open Config Files Hook Log Text Time

structure Host extends Surroundings where
  now : Instant
  stdin : Input
  stdout : Output := {}
  stderr : Output := {}

structure Finish where
  code : Nat
  stdout : Output
  stderr : Output
  tree : Tree

/-- Why a command fails: what could not be done, and the cause if there is another one. -/
structure Failure where
  summary : String
  cause : Option String := none
  deriving DecidableEq, Repr

def indented (text : String) : String :=
  String.intercalate "\n" ((text.toList.splitOn '\n').map fun l => "    " ++ String.ofList l)

namespace Failure

def ofLoadError (e : LoadError) : Failure := ⟨e.summary, some e.cause⟩

def message (f : Failure) : String :=
  "Error: " ++ f.summary ++
    match f.cause with
    | some cause => "\n\nCaused by:\n" ++ indented cause
    | none => ""

end Failure

def failureCode : Nat := 1

/-- The exit code of a run that breaks off as it could not write. -/
def unwritableCode : Nat := 101

namespace Host

/-- What the log says of a line of its own that was refused. -/
def refusedLine (fault : Fault) : String :=
  "[tracing-subscriber] Unable to write an event to the Writer for this Subscriber! Error: " ++
    fault.message ++ "\n"

/-- Writes an event that the filter lets through, and on a fault what the log says of it. If that
is refused as well, no output is left to go on with. -/
def logEvent (h : Host) (filter : Filter) (stderr : Output) (e : Event) : Except Output Output :=
  if filter.lets e then
    match stderr.writeLine (e.line h.now) with
    | (stderr, none) => .ok stderr
    | (stderr, some fault) =>
      match stderr.writeLine (refusedLine fault) with
      | (stderr, none) => .ok stderr
      | (stderr, some fault) =>
        .error (stderr.writeLine s!"failed printing to stderr: {fault.message}").1
  else .ok stderr

def logTo (h : Host) (filter : Filter) (stderr : Output) (events : List Event) :
    Except Output Output :=
  events.foldlM (h.logEvent filter) stderr

/-- Goes on behind some events, unless the log breaks the run off. -/
def logging (h : Host) (filter : Filter) (stderr : Output) (events : List Event)
    (next : Output → Finish) : Finish :=
  match h.logTo filter stderr events with
  | .ok stderr => next stderr
  | .error stderr => ⟨unwritableCode, h.stdout, stderr, h.tree⟩

def finish (h : Host) (stderr : Output) (code : Nat) (text : String) : Finish :=
  match h.stdout.write (toUtf8 text) with
  | (stdout, none) => ⟨code, stdout, stderr, h.tree⟩
  | (stdout, some fault) =>
    let line := s!"failed printing to stdout: {fault.message}"
    ⟨unwritableCode, stdout, (stderr.writeLine line).1, h.tree⟩

theorem finish_tree (h : Host) (stderr : Output) (code : Nat) (text : String) :
    (h.finish stderr code text).tree = h.tree := by
  unfold finish
  split <;> rfl

theorem finish_code_of_written {h : Host} {text : String}
    (hwritten : (h.stdout.write (toUtf8 text)).2 = none) (stderr : Output) (code : Nat) :
    (h.finish stderr code text).code = code := by
  unfold finish
  split
  · rfl
  · next stdout fault hwrite =>
    rw [hwrite] at hwritten
    cases hwritten

theorem finish_code_of_refused {h : Host} {text : String}
    (hrefused : (h.stdout.write (toUtf8 text)).2 ≠ none) (stderr : Output) (code : Nat) :
    (h.finish stderr code text).code = unwritableCode := by
  unfold finish
  split
  · next stdout hwrite =>
    rw [hwrite] at hrefused
    exact absurd rfl hrefused
  · rfl

def fail (h : Host) (stderr : Output) (f : Failure) : Finish :=
  ⟨failureCode, h.stdout, (stderr.writeLine f.message).1, h.tree⟩

end Host

end EditGuard.Command
