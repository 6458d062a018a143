import EditGuard.Hook.Payload

/-! # Outcomes of a hook -/

namespace EditGuard.Hook

open Text

/-- What a hook decides on an edit: let it pass, let it pass with advice, or refuse it. -/
inductive Outcome where
  | pass
  | advise (message : String)
  | deny (message : String)
  deriving DecidableEq, Repr

def denyExitCode : Nat := 1

/-- Both outputs after an outcome was written, and the fault that stopped the writing, if any. -/
structure Emission where
  stdout : Output
  stderr : Output
  fault : Option Fault
  deriving DecidableEq, Repr

namespace Outcome

def exitCode : Outcome → Nat
  | pass => 0
  | advise _ => 0
  | deny _ => denyExitCode

def settle (stdout stderr : Output) : Emission :=
  match stdout.flush with
  | (stdout, none) =>
    let (stderr, fault) := stderr.flush
    ⟨stdout, stderr, fault⟩
  | (stdout, some fault) => ⟨stdout, stderr, some fault⟩

def forward (p : Payload) (stdout stderr : Output) : Emission :=
  match stdout.write p.forwarded with
  | (stdout, none) => settle stdout stderr
  | (stdout, some fault) => ⟨stdout, stderr, some fault⟩

/-- Writes the message, if there is one, and then forwards the payload unless the edit is refused.
The first fault ends the writing. -/
def emit (o : Outcome) (p : Payload) (stdout stderr : Output) : Emission :=
  match o with
  | pass => forward p stdout stderr
  | advise message =>
    match stderr.writeLine message with
    | (stderr, none) => forward p stdout stderr
    | (stderr, some fault) => ⟨stdout, stderr, some fault⟩
  | deny message =>
    match stderr.writeLine message with
    | (stderr, none) => settle stdout stderr
    | (stderr, some fault) => ⟨stdout, stderr, some fault⟩

end Outcome

end EditGuard.Hook
