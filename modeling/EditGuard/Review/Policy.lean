import EditGuard.Fault
import EditGuard.Glob.Pattern
import EditGuard.Text.Basic
import EditGuard.Toml.Shape

/-! # Review policies

Patterns on the base name of a file select the documents whose edits are gated.
-/

namespace EditGuard.Review

open Glob Text Toml

def defaultDocuments : List String := ["*.spec.md", "*.prd.md", "prd.md"]

structure InvalidPattern where
  pattern : String
  error : PatternError
  deriving DecidableEq, Repr

def InvalidPattern.diagnostic (e : InvalidPattern) : Diagnostic where
  message := s!"invalid document pattern '{e.pattern}': {e.error.message}"
  code := "spec_hooks::review::pattern"
  help := some "patterns are matched against the base name, e.g. \"*.spec.md\""

/-- The patterns in effect, ready to match. -/
structure GatedDocuments where
  patterns : List Pattern
  deriving DecidableEq, Repr

namespace GatedDocuments

/-- Reads every pattern; the first that cannot be read is the error. -/
def compile (documents : List String) : Except InvalidPattern GatedDocuments := do
  let patterns ← documents.mapM fun d => (Pattern.parse d.toList).mapError (⟨d, ·⟩)
  pure ⟨patterns⟩

def isSeparator (c : Char) : Bool := c = '/' || c = '\\'

def baseName (path : List Char) : List Char := afterLast isSeparator path

def contains (gated : GatedDocuments) (path : List Char) : Bool :=
  gated.patterns.any (·.accepts (baseName path))

end GatedDocuments

/-! ## As configured -/

structure Policy where
  documents : List String := defaultDocuments
  deriving DecidableEq, Repr

namespace Policy

def shape : RecordShape Policy where
  fields := [.reading "documents" false Value.readStrings fun p v => { p with documents := v }]

def ofText (text : List Char) : Except Toml.Error Policy := shape.ofText {} text

end Policy

end EditGuard.Review
