/-! # Faults of files and streams, and diagnostics -/

namespace EditGuard

inductive Fault where
  | permissionDenied
  | notFound
  | notADirectory
  | isADirectory
  | noSpace
  | nameTooLong
  /-- A file that should hold text does not. -/
  | notText
  | other (text : String)
  deriving DecidableEq, Repr

def Fault.message : Fault → String
  | permissionDenied => "Permission denied (os error 13)"
  | notFound => "No such file or directory (os error 2)"
  | notADirectory => "Not a directory (os error 20)"
  | isADirectory => "Is a directory (os error 21)"
  | noSpace => "No space left on device (os error 28)"
  | nameTooLong => "File name too long (os error 36)"
  | notText => "stream did not contain valid UTF-8"
  | other text => text

/-- An error as it is reported: its text, the code of its kind and, for some kinds, advice. -/
structure Diagnostic where
  message : String
  code : String
  help : Option String := none
  deriving DecidableEq, Repr

end EditGuard
