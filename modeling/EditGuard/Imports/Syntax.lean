import EditGuard.Imports.EsModule
import EditGuard.Imports.Declarations

/-! # Import syntaxes -/

namespace EditGuard.Imports

open Text

/-- How the files of a ruleset spell their imports. -/
inductive ImportSyntax where
  | java
  | swift
  | esModule
  deriving DecidableEq, Repr

namespace ImportSyntax

def name : ImportSyntax → String
  | java => "java"
  | swift => "swift"
  | esModule => "es-module"

def all : List ImportSyntax := [java, swift, esModule]

def ofName? (s : String) : Option ImportSyntax := all.find? (·.name == s)

def statement : ImportSyntax → Recogniser (List Char)
  | java => Java.statement
  | swift => Swift.statement
  | esModule => EsModule.statement

def extract (s : ImportSyntax) (source : List Char) : List ImportRef :=
  references s.statement source

end ImportSyntax

end EditGuard.Imports
