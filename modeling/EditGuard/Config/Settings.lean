import EditGuard.Config.Source
import EditGuard.Layers.Builtin
import EditGuard.Layers.Decode
import EditGuard.Layers.Validation
import EditGuard.Review.Policy

/-! # Settings -/

namespace EditGuard.Config

open Layers Review Toml

/-- What a configuration file says; without rulesets of its own the built-in ones apply. -/
structure Declared where
  rulesets : Option Rulesets := none
  policy : Policy := {}
  deriving DecidableEq, Repr

namespace Declared

def shape : RecordShape Declared where
  fields := [
    .reading "architecture" false (Rulesets.shape.read Rulesets.blank)
      fun d v => { d with rulesets := some v },
    .reading "review" false (Policy.shape.read {}) fun d v => { d with policy := v }]
  isClosed := true

def ofText (text : String) : Except Toml.Error Declared := shape.ofText {} text.toList

end Declared

structure Settings where
  rulesets : Rulesets
  policy : Policy
  source : Source
  deriving DecidableEq, Repr

inductive LoadError where
  | unreadable (path : String) (fault : Fault)
  | malformed (path : String) (error : Toml.Error)
  | inconsistent (fault : Inconsistency)
  deriving DecidableEq, Repr

namespace LoadError

def summary : LoadError → String
  | unreadable path _ => s!"Failed to read {path}"
  | malformed path _ => s!"Failed to load {path}"
  | inconsistent _ => "Architecture config validation failed"

def cause : LoadError → String
  | unreadable _ fault => fault.message
  | malformed _ error => error.message
  | inconsistent fault => fault.diagnostic.message

end LoadError

namespace Settings

def declared (s : Surroundings) (source : Source) : Except LoadError Declared :=
  match source.path? with
  | none => .ok {}
  | some path =>
    match s.readText path with
    | .error fault => .error (.unreadable path fault)
    | .ok text => (Declared.ofText text).mapError (.malformed path)

/-- Loads the settings from a source. Their rulesets are consistent. -/
def load (s : Surroundings) (source : Source) : Except LoadError Settings := do
  let d ← declared s source
  let rulesets := d.rulesets.getD Builtin.rulesets
  rulesets.validate.mapError .inconsistent
  pure ⟨rulesets, d.policy, source⟩

end Settings

end EditGuard.Config
